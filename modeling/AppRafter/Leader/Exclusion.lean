import AppRafter.Leader.Election
import Mathlib.Data.Fintype.Basic
import Mathlib.Tactic.SplitIfs

set_option autoImplicit false

namespace AppRafter.Leader

open List Option

-- Every timer the loop waits on fires before the stamp is renewDeadline old.
def Timely (config : LeaderConfig) (now : Nat) (replica : Replica) : Prop :=
  match replica.phase with
  | .sleeping nextAttempt =>
    replica.isLeader = replica.renewedAt.isSome ∧ ∀ stamp, replica.renewedAt = some stamp →
        stamp ≤ now ∧ now ≤ stamp + config.renewDeadline ∧ nextAttempt ≤ stamp + config.renewDeadline
  | .reading started windowEnd deadline _ =>
    replica.isLeader = replica.renewedAt.isSome ∧ started ≤ now ∧ now ≤ deadline ∧ deadline ≤ windowEnd ∧
      windowEnd ≤ started + config.renewDeadline ∧
      ∀ stamp, replica.renewedAt = some stamp → stamp ≤ started ∧ windowEnd ≤ stamp + config.renewDeadline
  | .writing started deadline _ _ _ =>
    replica.isLeader = replica.renewedAt.isSome ∧ started ≤ now ∧ now ≤ deadline ∧ deadline ≤ started + config.renewDeadline ∧
      ∀ stamp, replica.renewedAt = some stamp → stamp ≤ started ∧ deadline ≤ stamp + config.renewDeadline
  | .returned _ => replica.isLeader = false

def Claims (replica : Replica) (stamp : Nat) : Prop :=
  (replica.isLeader = true ∧ replica.renewedAt = some stamp) ∨
    ∃ deadline bound request, replica.phase = .writing stamp deadline bound request (some true)

variable {config : LeaderConfig} {now stamp started : Nat} {replica : Replica}

theorem timely_open (timely : Timely config now replica) (isOpen : replica.isLeader = true) :
    ∃ stamp, replica.renewedAt = some stamp ∧ stamp ≤ now ∧ now ≤ stamp + config.renewDeadline := by
  obtain ⟨isLeader, renewedAt, failures, phase⟩ := replica
  subst isOpen
  cases phase with
  | sleeping nextAttempt =>
    obtain ⟨gate, bounds⟩ := timely
    obtain ⟨stamp, held⟩ := isSome_iff_exists.mp gate.symm
    exact ⟨stamp, held, (bounds stamp held).1, (bounds stamp held).2.1⟩
  | reading started windowEnd deadline reply =>
    obtain ⟨gate, begun, inTime, before, _, bounds⟩ := timely
    obtain ⟨stamp, held⟩ := isSome_iff_exists.mp gate.symm
    have bound := bounds stamp held
    exact ⟨stamp, held, by omega, by omega⟩
  | writing started deadline bound request reply =>
    obtain ⟨gate, begun, inTime, before, bounds⟩ := timely
    obtain ⟨stamp, held⟩ := isSome_iff_exists.mp gate.symm
    have bound := bounds stamp held
    exact ⟨stamp, held, by omega, by omega⟩
  | returned why => exact absurd timely Bool.noConfusion

theorem timely_claims (timely : Timely config now replica) (claims : Claims replica stamp) : now ≤ stamp + config.renewDeadline := by
  rcases claims with ⟨isOpen, held⟩ | ⟨deadline, bound, request, waiting⟩
  · obtain ⟨other, same, _, fresh⟩ := timely_open timely isOpen
    have equal : other = stamp := some.inj (same.symm.trans held)
    exact equal ▸ fresh
  · simp only [Timely, waiting] at timely
    omega

theorem timely_tick {later : Nat}
    (timely : Timely config now replica) (forward : now ≤ later) (inTime : onTime replica later = true) :
    Timely config later replica := by
  obtain ⟨isLeader, renewedAt, failures, phase⟩ := replica
  cases phase with
  | sleeping nextAttempt =>
    obtain ⟨gate, bounds⟩ := timely
    have timer : later ≤ nextAttempt := of_decide_eq_true inTime
    refine ⟨gate, ?_⟩
    intro stamp held
    have bound := bounds stamp held
    exact ⟨by omega, by omega, bound.2.2⟩
  | reading started windowEnd deadline reply | writing started deadline bound request reply =>
    obtain ⟨gate, begun, _, rest⟩ := timely
    have timer : later ≤ deadline := of_decide_eq_true inTime
    exact ⟨gate, Nat.le_trans begun forward, timer, rest⟩
  | returned why => exact timely

theorem step_window_bound (polling : config.renewPeriod ≤ config.renewDeadline)
    {since : Option Nat} {window : Nat} (opened : stepWindow config since = some window) :
    window ≤ config.renewDeadline ∧ ∀ elapsed, since = some elapsed → elapsed + window ≤ config.renewDeadline := by
  cases since with
  | none =>
    have same : config.renewPeriod = window := some.inj opened
    exact ⟨same ▸ polling, nofun⟩
  | some elapsed =>
    simp only [stepWindow] at opened
    split_ifs at opened with inside spent
    have same : config.renewDeadline - elapsed = window := some.inj opened
    refine ⟨by omega, ?_⟩
    intro other equal
    cases equal
    omega

theorem timely_begin (polling : config.renewPeriod ≤ config.renewDeadline) {nextAttempt : Nat} (asleep : replica.phase = .sleeping nextAttempt)
    (timely : Timely config now replica) : Timely config now (beginStep config replica now) := by
  simp only [Timely, asleep] at timely
  obtain ⟨gate, bounds⟩ := timely
  cases opened : stepWindow config (replica.renewedAt.map (now - ·)) with
  | none =>
    simp only [beginStep, opened]
    rfl
  | some window =>
    simp only [beginStep, opened]
    obtain ⟨short, inside⟩ := step_window_bound polling opened
    have readBound : requestBound config .read window ≤ window := Nat.min_le_left _ _
    refine ⟨gate, Nat.le_refl _, by omega, by omega, by omega, ?_⟩
    intro stamp held
    have stamped := bounds stamp held
    have spent := inside (now - stamp) (by simp only at held; rw [held]; rfl)
    exact ⟨stamped.1, by omega⟩

theorem timely_finish (polling : config.renewPeriod ≤ config.renewDeadline) (result : Except LeaderError Bool)
    (gate : replica.isLeader = replica.renewedAt.isSome) (begun : started ≤ now)
    (inTime : now ≤ started + config.renewDeadline)
    (bounds : ∀ stamp, replica.renewedAt = some stamp → stamp ≤ started ∧ now ≤ stamp + config.renewDeadline) :
    Timely config now (finishStep config replica started result) := by
  match result with
  | .ok true =>
    refine ⟨rfl, ?_⟩
    intro stamp held
    cases held
    exact ⟨begun, inTime, by omega⟩
  | .ok false =>
    cases held : replica.renewedAt with
    | none =>
      simp only [finishStep, held, Timely]
      refine ⟨by rw [gate, held], ?_⟩
      intro stamp absent
      cases absent
    | some stamp =>
      simp only [finishStep, held]
      rfl
  | .error why =>
    refine ⟨gate, ?_⟩
    intro stamp (held : replica.renewedAt = some stamp)
    have bound := bounds stamp held
    rw [held]
    exact ⟨by omega, bound.2, Nat.min_le_right _ _⟩

theorem claims_finish {result : Except LeaderError Bool} (claims : Claims (finishStep config replica started result) stamp) :
    (result = .ok true ∧ stamp = started) ∨ (replica.isLeader = true ∧ replica.renewedAt = some stamp) := by
  match result with
  | .ok true =>
    rcases claims with ⟨_, held⟩ | ⟨_, _, _, waiting⟩
    · exact .inl ⟨rfl, (some.inj held).symm⟩
    · exact nomatch waiting
  | .ok false =>
    cases held : replica.renewedAt with
    | none =>
      simp only [finishStep, held] at claims
      rcases claims with ⟨_, renewed⟩ | ⟨_, _, _, waiting⟩
      · exact nomatch renewed
      · exact nomatch waiting
    | some earlier =>
      simp only [finishStep, held, stepDown] at claims
      rcases claims with ⟨closed, _⟩ | ⟨_, _, _, waiting⟩
      · exact nomatch closed
      · exact nomatch waiting
  | .error why =>
    rcases claims with kept | ⟨_, _, _, waiting⟩
    · exact .inr kept
    · exact nomatch waiting

theorem claims_begin (started stamp : Nat) (claims : Claims (beginStep config replica started) stamp) : Claims replica stamp := by
  unfold beginStep at claims
  cases opened : stepWindow config (replica.renewedAt.map (started - ·)) with
  | none =>
    simp only [opened, stepDown] at claims
    rcases claims with ⟨closed, _⟩ | ⟨_, _, _, waiting⟩
    · exact nomatch closed
    · exact nomatch waiting
  | some window =>
    simp only [opened] at claims
    rcases claims with kept | ⟨_, _, _, waiting⟩
    · exact .inl kept
    · exact nomatch waiting

section Electorate

variable {n : Nat} (config : LeaderConfig) (holder : Fin n → String) (clock : Fin n → Nat → Int)

-- Two wall clocks disagree by less than the margin the config leaves.
def ClocksClose : Prop :=
  ∀ i k : Fin n, i ≠ k → ∀ t u : Nat,
    (clock i t - t) - (clock k u - u) < (config.leaseDuration : Int) - config.renewDeadline

def Holds (lease : Option Lease) (i : Fin n) (stamp : Nat) : Prop :=
  ∃ current spec renewed, lease = some current ∧ current.spec = some spec ∧ spec.holderIdentity = some (holder i) ∧
    spec.renewTime = some (clock i renewed) ∧ stamp ≤ renewed

def Snapshot (lease : Option Lease) (seen : Lease) : Prop :=
  ∃ current, lease = some current ∧ seen.resourceVersion ≤ current.resourceVersion ∧
    (seen.resourceVersion = current.resourceVersion → seen = current)

-- An acceptable replace was decided on the Lease as it stands, unrenewed since.
structure SafeWrite (s : State n) (write : WriteRequest n) : Prop where
  past : write.started ≤ s.now
  numbered : write.request < s.nextRequest
  signed : write.spec.holderIdentity = some (holder write.owner)
  renewTime : write.spec.renewTime = some (clock write.owner write.started)
  decided : ∀ expected, write.expected = some expected → ∃ seen, Snapshot s.lease seen ∧
    seen.resourceVersion = expected ∧
    mayTakeLease (seen.spec.bind (·.holderIdentity))
      (isLeaseStale (seen.spec.bind (·.renewTime)) config.leaseDuration (clock write.owner write.started))
      (holder write.owner) = true ∧
    (s.lease = some seen → ∀ stamp, Claims (s.replica write.owner) stamp → stamp ≤ write.started)

structure Safe (s : State n) : Prop where
  timely : ∀ i, Timely config s.now (s.replica i)
  reads : ∀ i started windowEnd deadline seen,
    (s.replica i).phase = .reading started windowEnd deadline (some (some seen)) → Snapshot s.lease seen
  writes : ∀ write ∈ s.inFlight, SafeWrite config holder clock s write
  awaited : ∀ i started deadline bound request reply,
    (s.replica i).phase = .writing started deadline bound request reply → request < s.nextRequest ∧
      ∀ write ∈ s.inFlight, write.request = request → write.owner = i ∧ write.started = started
  held : ∀ i stamp, Claims (s.replica i) stamp → Holds holder clock s.lease i stamp

variable {i k : Fin n} {s : State n} {replica : Replica} {started windowEnd deadline request stamp : Nat}
  {answer before after : Option Lease} {write : WriteRequest n}

-- What holds of every replica, after one is set.
theorem each_replica {replicas : Fin n → Replica} (p : Fin n → Replica → Prop) (mine : p i replica)
    (others : ∀ k, p k (replicas k)) : ∀ k, p k (Function.update replicas i replica k) :=
  (Function.forall_update_iff replicas p).mpr ⟨mine, fun k _ => others k⟩

theorem safe_initial (s : State n) (initial : Initial s) : Safe config holder clock s := by
  obtain ⟨quiet, fresh⟩ := initial
  refine ⟨?_, ?_, ?_, ?_, ?_⟩
  · intro i
    obtain ⟨start, same, _⟩ := fresh i
    rw [same]
    exact ⟨rfl, fun stamp held => nomatch held⟩
  · intro i started windowEnd deadline seen waiting
    obtain ⟨start, same, _⟩ := fresh i
    rw [same] at waiting
    exact nomatch waiting
  · intro write sent
    rw [quiet] at sent
    exact nomatch sent
  · intro i started deadline bound request reply waiting
    obtain ⟨start, same, _⟩ := fresh i
    rw [same] at waiting
    exact nomatch waiting
  · intro i stamp claims
    obtain ⟨start, same, _⟩ := fresh i
    rw [same] at claims
    rcases claims with ⟨closed, _⟩ | ⟨_, _, _, waiting⟩
    · exact nomatch closed
    · exact nomatch waiting

theorem safe_tick {later : Nat} (forward : s.now ≤ later)
    (inTime : ∀ i, onTime (s.replica i) later = true) (safe : Safe config holder clock s) :
    Safe config holder clock { s with now := later } := by
  refine ⟨?_, safe.reads, ?_, safe.awaited, safe.held⟩
  · intro i
    exact timely_tick (safe.timely i) forward (inTime i)
  · intro write sent
    have kept := safe.writes write sent
    exact { kept with past := Nat.le_trans kept.past forward }

-- A replica may drop claims and waits for no write it was not already waiting for.
theorem safe_replace (safe : Safe config holder clock s) (timely : Timely config s.now replica)
    (reads : ∀ started windowEnd deadline seen,
      replica.phase = .reading started windowEnd deadline (some (some seen)) → Snapshot s.lease seen)
    (awaited : ∀ started deadline bound request reply, replica.phase ≠ .writing started deadline bound request reply)
    (claims : ∀ stamp, Claims replica stamp → Claims (s.replica i) stamp) :
    Safe config holder clock (setReplica s i replica) := by
  have shrinks : ∀ k stamp, Claims ((setReplica s i replica).replica k) stamp → Claims (s.replica k) stamp :=
    each_replica (fun k held => ∀ stamp, Claims held stamp → Claims (s.replica k) stamp) claims fun _ _ => id
  refine ⟨each_replica (fun _ => Timely config s.now) timely safe.timely, ?_, ?_, ?_, ?_⟩
  · exact each_replica (fun _ held => ∀ started windowEnd deadline seen,
      held.phase = .reading started windowEnd deadline (some (some seen)) → Snapshot s.lease seen) reads safe.reads
  · intro write sent
    have kept := safe.writes write sent
    refine { kept with decided := ?_ }
    intro expected wanted
    obtain ⟨seen, snapshot, version, allowed, renewed⟩ := kept.decided expected wanted
    refine ⟨seen, snapshot, version, allowed, ?_⟩
    intro unchanged stamp claimed
    exact renewed unchanged stamp (shrinks write.owner stamp claimed)
  · refine each_replica (fun k held => ∀ started deadline bound request reply,
      held.phase = .writing started deadline bound request reply → request < s.nextRequest ∧
        ∀ write ∈ s.inFlight, write.request = request → write.owner = k ∧ write.started = started) ?_ safe.awaited
    intro started deadline bound request reply waiting
    exact absurd waiting (awaited started deadline bound request reply)
  · intro k stamp claimed
    exact safe.held k stamp (shrinks k stamp claimed)

variable (polling : config.renewPeriod ≤ config.renewDeadline)

-- It waits for an answer in a step begun at `started`.
def Pending (replica : Replica) (started : Nat) : Prop :=
  (∃ windowEnd deadline reply, replica.phase = .reading started windowEnd deadline reply) ∨
    ∃ deadline bound request reply, replica.phase = .writing started deadline bound request reply

theorem timely_pending {now : Nat} (timely : Timely config now replica) (pending : Pending replica started) :
    replica.isLeader = replica.renewedAt.isSome ∧ started ≤ now ∧ now ≤ started + config.renewDeadline ∧
      ∀ stamp, replica.renewedAt = some stamp → stamp ≤ started ∧ now ≤ stamp + config.renewDeadline := by
  rcases pending with ⟨windowEnd, deadline, reply, reading⟩ | ⟨deadline, bound, request, reply, writing⟩
  · simp only [Timely, reading] at timely
    obtain ⟨gate, begun, inTime, before, window, bounds⟩ := timely
    refine ⟨gate, begun, by omega, ?_⟩
    intro stamp held
    have bound := bounds stamp held
    exact ⟨bound.1, by omega⟩
  · simp only [Timely, writing] at timely
    obtain ⟨gate, begun, inTime, before, bounds⟩ := timely
    refine ⟨gate, begun, by omega, ?_⟩
    intro stamp held
    have bound := bounds stamp held
    exact ⟨bound.1, by omega⟩

include polling in
theorem safe_finish {result : Except LeaderError Bool} (safe : Safe config holder clock s)
    (pending : Pending (s.replica i) started) (confirmed : result = .ok true → Claims (s.replica i) started) :
    Safe config holder clock (setReplica s i (finishStep (configOf config holder i) (s.replica i) started result)) := by
  have asleep : ∀ started' windowEnd deadline reply, (finishStep (configOf config holder i) (s.replica i) started result).phase ≠
        .reading started' windowEnd deadline reply ∧
      ∀ bound request answer, (finishStep (configOf config holder i) (s.replica i) started result).phase ≠
        .writing started' deadline bound request answer := by
    intro started' windowEnd deadline reply
    match result with
    | .ok true => exact ⟨nofun, nofun⟩
    | .error why => exact ⟨nofun, nofun⟩
    | .ok false =>
      cases held : (s.replica i).renewedAt with
      | none => simp [finishStep, held]
      | some stamp => simp [finishStep, held, stepDown]
  apply safe_replace _ _ clock safe
  · obtain ⟨gate, begun, inTime, bounds⟩ := timely_pending config (safe.timely i) pending
    exact timely_finish polling result gate begun inTime bounds
  · intro started' windowEnd deadline seen reading
    exact absurd reading (asleep started' windowEnd deadline _).1
  · intro started' deadline bound request reply
    exact (asleep started' 0 deadline none).2 bound request reply
  · intro stamp claims
    rcases claims_finish claims with ⟨renewed, same⟩ | kept
    · exact same ▸ confirmed renewed
    · exact .inl kept

theorem safe_send {expected : Option Nat} {spec : LeaseSpec} (safe : Safe config holder clock s)
    (reading : (s.replica i).phase = .reading started windowEnd deadline (some answer))
    (signed : spec.holderIdentity = some (holder i)) (renewTime : spec.renewTime = some (clock i started))
    (decided : ∀ version, expected = some version → ∃ seen, answer = some seen ∧ seen.resourceVersion = version ∧
      mayTakeLease (seen.spec.bind (·.holderIdentity))
        (isLeaseStale (seen.spec.bind (·.renewTime)) config.leaseDuration (clock i started)) (holder i) = true) :
    Safe config holder clock (sendWrite config holder s i started windowEnd expected spec) := by
  have timely := safe.timely i
  simp only [Timely, reading] at timely
  obtain ⟨gate, begun, inTime, before, window, bounds⟩ := timely
  let sent := sendWrite config holder s i started windowEnd expected spec
  let pending : Phase := .writing started (s.now + (windowEnd - s.now)) (windowEnd - s.now) s.nextRequest none
  -- The write is pending, so its sender claims exactly what it claimed before.
  have same : ∀ k stamp, Claims (sent.replica k) stamp → Claims (s.replica k) stamp := by
    refine each_replica (fun k held => ∀ stamp, Claims held stamp → Claims (s.replica k) stamp) ?_ fun _ _ => id
    rintro stamp (kept | ⟨_, _, _, waiting⟩)
    · exact .inl kept
    · exact nomatch waiting
  refine ⟨each_replica (fun _ => Timely config s.now) ?_ safe.timely, ?_, ?_, ?_, ?_⟩
  · change Timely config s.now { s.replica i with phase := pending }
    refine ⟨gate, begun, by omega, by omega, ?_⟩
    intro stamp held
    have bound := bounds stamp held
    exact ⟨bound.1, by omega⟩
  · exact each_replica (fun _ held => ∀ started windowEnd deadline seen,
      held.phase = .reading started windowEnd deadline (some (some seen)) → Snapshot s.lease seen) nofun safe.reads
  · intro write member
    rcases mem_append.mp member with earlier | latest
    · have kept := safe.writes write earlier
      refine ⟨kept.past, Nat.lt_succ_of_lt kept.numbered, kept.signed, kept.renewTime, ?_⟩
      intro version wanted
      obtain ⟨seen, snapshot, atVersion, allowed, renewed⟩ := kept.decided version wanted
      exact ⟨seen, snapshot, atVersion, allowed,
        fun unchanged stamp claims => renewed unchanged stamp (same write.owner stamp claims)⟩
    · have this := mem_singleton.mp latest
      subst this
      refine ⟨begun, Nat.lt_succ_self _, signed, renewTime, ?_⟩
      intro version wanted
      obtain ⟨seen, read, atVersion, allowed⟩ := decided version wanted
      subst read
      refine ⟨seen, safe.reads i started windowEnd deadline seen reading, atVersion, allowed, ?_⟩
      intro _ stamp claims
      rcases same i stamp claims with ⟨_, held⟩ | ⟨_, _, _, waiting⟩
      · exact (bounds stamp held).1
      · exact nomatch reading.symm.trans waiting
  · refine each_replica (fun k held => ∀ started deadline bound request reply,
      held.phase = .writing started deadline bound request reply → request < sent.nextRequest ∧
        ∀ write ∈ sent.inFlight, write.request = request → write.owner = k ∧ write.started = started) ?_ ?_
    · intro started' deadline' bound request reply waiting
      obtain ⟨rfl, _, _, rfl, _⟩ := Phase.writing.inj (show pending = _ from waiting)
      refine ⟨Nat.lt_succ_self _, ?_⟩
      intro write member numbered
      rcases mem_append.mp member with earlier | latest
      · exact absurd numbered (Nat.ne_of_lt (safe.writes write earlier).numbered)
      · have this := mem_singleton.mp latest
        subst this
        exact ⟨rfl, rfl⟩
    · intro k started' deadline' bound request reply waiting
      obtain ⟨numbered, matching⟩ := safe.awaited k started' deadline' bound request reply waiting
      refine ⟨Nat.lt_succ_of_lt numbered, ?_⟩
      intro write member equal
      rcases mem_append.mp member with earlier | latest
      · exact matching write earlier equal
      · have this := mem_singleton.mp latest
        subst this
        exact absurd equal.symm (Nat.ne_of_lt numbered)
  · intro k stamp claims
    exact safe.held k stamp (same k stamp claims)

-- A stale Lease's renewal is over renewDeadline old, with the clocks this close.
theorem stale_renewal_old (close : ClocksClose config clock) (other : i ≠ k) {renewed : Nat}
    (stale : isLeaseStale (some (clock k renewed)) config.leaseDuration (clock i started) = true) :
    renewed + config.renewDeadline < started := by
  have elapsed := of_decide_eq_true stale
  have apart := close i k other started renewed
  have whole : (asSecs config.leaseDuration : Int) * microsPerSecond + microsPerSecond > config.leaseDuration := by
    simp only [asSecs, microsPerSecond] at *
    omega
  have positive : 0 ≤ clock i started - clock k renewed := by
    by_contra negative
    have below := Int.tdiv_le_tdiv (show (0 : Int) < microsPerSecond by decide)
      (show clock i started - clock k renewed ≤ 0 by omega)
    rw [Int.zero_tdiv] at below
    omega
  rw [Int.tdiv_eq_ediv_of_nonneg positive] at elapsed
  simp only [microsPerSecond] at *
  omega

theorem answer_write_fields (replica : Replica) (request : Nat) (reply : Bool) :
    (answerWrite replica request reply).isLeader = replica.isLeader ∧
      (answerWrite replica request reply).renewedAt = replica.renewedAt := by
  simp only [answerWrite]
  split
  · split_ifs <;> exact ⟨rfl, rfl⟩
  · exact ⟨rfl, rfl⟩

theorem answer_write_phase (replica : Replica) (request : Nat) (reply : Bool) :
    (answerWrite replica request reply).phase = replica.phase ∨
      ∃ started deadline bound, replica.phase = .writing started deadline bound request none ∧
        (answerWrite replica request reply).phase = .writing started deadline bound request (some reply) := by
  simp only [answerWrite]
  split
  · rename_i started deadline bound awaited waiting
    split_ifs with same
    · exact .inr ⟨started, deadline, bound, same ▸ waiting, by rw [same]⟩
    · exact .inl rfl
  · exact .inl rfl

theorem timely_answer {now : Nat} (request : Nat) (reply : Bool)
    (timely : Timely config now replica) : Timely config now (answerWrite replica request reply) := by
  obtain ⟨gate, stamped⟩ := answer_write_fields replica request reply
  rcases answer_write_phase replica request reply with same | ⟨started, deadline, bound, before, after⟩
  · simp only [Timely, same, gate, stamped]
    exact timely
  · simp only [Timely, after, gate, stamped]
    simpa only [Timely, before] using timely

theorem claims_answer {reply : Bool} (claims : Claims (answerWrite replica request reply) stamp) :
    Claims replica stamp ∨ (reply = true ∧ ∃ deadline bound, replica.phase = .writing stamp deadline bound request none) := by
  obtain ⟨gate, stamped⟩ := answer_write_fields replica request reply
  rcases claims with ⟨isOpen, held⟩ | ⟨deadline, bound, awaited, waiting⟩
  · exact .inl (.inl ⟨gate ▸ isOpen, stamped ▸ held⟩)
  · rcases answer_write_phase replica request reply with same | ⟨started, deadline', bound', before, after⟩
    · exact .inl (.inr ⟨deadline, bound, awaited, same ▸ waiting⟩)
    · obtain ⟨rfl, _, _, _, accepted⟩ := Phase.writing.inj (after.symm.trans waiting)
      exact .inr ⟨some.inj accepted, deadline', bound', before⟩

theorem safe_serve {t : State n} (accepted : Bool) (safe : Safe config holder clock s)
    (clockKept : t.now = s.now) (counter : t.nextRequest = s.nextRequest)
    (queue : ∀ other ∈ t.inFlight, other ∈ s.inFlight)
    (replicas : t.replica = Function.update s.replica write.owner (answerWrite (s.replica write.owner) write.request accepted))
    (grows : ∀ seen, Snapshot s.lease seen → Snapshot t.lease seen)
    (unchanged : ∀ seen, Snapshot s.lease seen → t.lease = some seen → s.lease = some seen ∧ accepted = false)
    (held : ∀ k stamp, Claims (t.replica k) stamp → Holds holder clock t.lease k stamp) :
    Safe config holder clock t := by
  have owner : t.replica write.owner = answerWrite (s.replica write.owner) write.request accepted := by
    rw [replicas, Function.update_self]
  have others : ∀ k, k ≠ write.owner → t.replica k = s.replica k := by
    intro k other
    rw [replicas, Function.update_of_ne other]
  refine ⟨?_, ?_, ?_, ?_, held⟩
  · intro k
    rw [clockKept]
    by_cases mine : k = write.owner
    · rw [mine, owner]
      exact timely_answer _ _ _ (safe.timely write.owner)
    · rw [others k mine]
      exact safe.timely k
  · intro k started windowEnd deadline seen reading
    apply grows
    by_cases mine : k = write.owner
    · rw [mine, owner] at reading
      rcases answer_write_phase (s.replica write.owner) write.request accepted with same | ⟨_, _, _, _, after⟩
      · exact safe.reads write.owner started windowEnd deadline seen (same.symm.trans reading)
      · exact nomatch after.symm.trans reading
    · rw [others k mine] at reading
      exact safe.reads k started windowEnd deadline seen reading
  · intro other member
    have kept := safe.writes other (queue other member)
    refine ⟨clockKept ▸ kept.past, counter ▸ kept.numbered, kept.signed, kept.renewTime, ?_⟩
    intro version wanted
    obtain ⟨seen, snapshot, atVersion, allowed, renewed⟩ := kept.decided version wanted
    refine ⟨seen, grows seen snapshot, atVersion, allowed, ?_⟩
    intro current stamp claims
    obtain ⟨before, refused⟩ := unchanged seen snapshot current
    apply renewed before stamp
    by_cases mine : other.owner = write.owner
    · rw [mine, owner] at claims
      rw [mine]
      rcases claims_answer claims with earlier | ⟨wasAccepted, _⟩
      · exact earlier
      · exact absurd (refused.symm.trans wasAccepted) Bool.noConfusion
    · rw [others other.owner mine] at claims
      exact claims
  · intro k started deadline bound request reply waiting
    have earlier : ∃ before, (s.replica k).phase = .writing started deadline bound request before := by
      by_cases mine : k = write.owner
      · rw [mine, owner] at waiting
        rw [mine]
        rcases answer_write_phase (s.replica write.owner) write.request accepted with
          same | ⟨started', deadline', bound', before, after⟩
        · exact ⟨reply, same.symm.trans waiting⟩
        · obtain ⟨rfl, rfl, rfl, rfl, _⟩ := Phase.writing.inj (after.symm.trans waiting)
          exact ⟨none, before⟩
      · exact ⟨reply, others k mine ▸ waiting⟩
    obtain ⟨before, phase⟩ := earlier
    obtain ⟨numbered, matching⟩ := safe.awaited k started deadline bound request before phase
    exact ⟨counter ▸ numbered, fun other member => matching other (queue other member)⟩

theorem safe_refuse (safe : Safe config holder clock s)
    (refused : commitWrite write s.lease = none) : Safe config holder clock (serveWrite s write) := by
  simp only [serveWrite, refused]
  refine safe_serve config holder clock false safe rfl rfl (fun _ => mem_of_mem_erase) rfl
    (fun _ => id) (fun _ _ same => ⟨same, rfl⟩) ?_
  refine each_replica (fun k held => ∀ stamp, Claims held stamp → Holds holder clock s.lease k stamp) ?_ safe.held
  intro stamp claims
  rcases claims_answer claims with earlier | ⟨accepted, _⟩
  · exact safe.held write.owner stamp earlier
  · exact nomatch accepted

theorem commit_write_some (committed : commitWrite write before = some after) :
    (before = none ∧ after = some ⟨1, some write.spec⟩) ∨
      ∃ current, before = some current ∧ write.expected = some current.resourceVersion ∧
        after = some ⟨current.resourceVersion + 1, some write.spec⟩ := by
  cases before with
  | none =>
    cases wanted : write.expected with
    | none =>
      simp only [commitWrite, wanted] at committed
      exact .inl ⟨rfl, (some.inj committed).symm⟩
    | some version =>
      simp only [commitWrite, wanted] at committed
      exact nomatch committed
  | some current =>
    simp only [commitWrite] at committed
    split_ifs at committed with matching
    exact .inr ⟨current, rfl, matching, (some.inj committed).symm⟩

theorem commit_snapshot (committed : commitWrite write before = some after) {seen : Lease} (snapshot : Snapshot before seen) :
    Snapshot after seen ∧ after ≠ some seen := by
  obtain ⟨current, same, older, _⟩ := snapshot
  rcases commit_write_some committed with ⟨absent, _⟩ | ⟨current', same', _, next⟩
  · exact nomatch absent.symm.trans same
  · have equal : current = current' := some.inj (same.symm.trans same')
    subst equal next
    refine ⟨⟨_, rfl, Nat.le_succ_of_le older, ?_⟩, ?_⟩
    · intro later
      simp only at later
      omega
    · intro equal
      have version := congrArg Lease.resourceVersion (some.inj equal)
      simp only at version
      omega

variable (distinct : Function.Injective holder)

include distinct in
-- Whoever else could be acting renewed too long ago to be acting still.
theorem commit_excludes (close : ClocksClose config clock) (safe : Safe config holder clock s)
    (member : write ∈ s.inFlight) (committed : commitWrite write s.lease = some after) (other : k ≠ write.owner) (claims : Claims (s.replica k) stamp) : False := by
  have kept := safe.writes write member
  obtain ⟨current, spec, renewed, same, inner, signed, stamped, newer⟩ := safe.held k stamp claims
  rcases commit_write_some committed with ⟨absent, _⟩ | ⟨current', same', wanted, _⟩
  · exact nomatch absent.symm.trans same
  · obtain ⟨seen, ⟨current'', same'', _, pinned⟩, version, allowed, _⟩ := kept.decided _ wanted
    have equal : current = current' := some.inj (same.symm.trans same')
    have equal' : current = current'' := some.inj (same.symm.trans same'')
    subst equal equal'
    have exact := pinned version
    subst exact
    rw [inner] at allowed
    simp only [bind_some, signed, stamped, mayTakeLease, Bool.or_eq_true, beq_iff_eq, some.injEq] at allowed
    rcases allowed with mine | stale
    · exact other (distinct mine)
    · have old := stale_renewal_old _ clock close (Ne.symm other) stale
      have fresh := timely_claims (safe.timely k) claims
      have past := kept.past
      omega

include distinct in
theorem safe_commit (close : ClocksClose config clock) (safe : Safe config holder clock s)
    (member : write ∈ s.inFlight) (committed : commitWrite write s.lease = some after) :
    Safe config holder clock (serveWrite s write) := by
  have kept := safe.writes write member
  have spec : ∃ version, after = some ⟨version, some write.spec⟩ := by
    rcases commit_write_some committed with ⟨_, next⟩ | ⟨_, _, _, next⟩
    · exact ⟨_, next⟩
    · exact ⟨_, next⟩
  obtain ⟨version, next⟩ := spec
  simp only [serveWrite, committed]
  refine safe_serve config holder clock true safe rfl rfl (fun _ => mem_of_mem_erase) rfl
    (fun seen snapshot => (commit_snapshot committed snapshot).1)
    (fun seen snapshot same => absurd same (commit_snapshot committed snapshot).2) ?_
  intro k stamp claims
  by_cases mine : k = write.owner
  · subst mine
    refine ⟨_, write.spec, write.started, next, rfl, kept.signed, kept.renewTime, ?_⟩
    have answered : Claims (answerWrite (s.replica write.owner) write.request true) stamp := by
      simpa only [setReplica, Function.update_self] using claims
    rcases claims_answer answered with earlier | ⟨_, deadline, bound, waiting⟩
    · rcases commit_write_some committed with ⟨absent, _⟩ | ⟨current, same, wanted, _⟩
      · obtain ⟨_, _, _, present, _⟩ := safe.held write.owner stamp earlier
        exact nomatch absent.symm.trans present
      · obtain ⟨seen, ⟨current', same', _, pinned⟩, atVersion, _, renewed⟩ := kept.decided _ wanted
        have equal : current = current' := some.inj (same.symm.trans same')
        subst equal
        exact renewed (pinned atVersion ▸ same) stamp earlier
    · have matching := (safe.awaited write.owner stamp deadline bound write.request none waiting).2 write member rfl
      exact Nat.le_of_eq matching.2.symm
  · have earlier : Claims (s.replica k) stamp := by
      simpa only [setReplica, Function.update_of_ne mine] using claims
    exact (commit_excludes _ _ clock distinct close safe member committed mine earlier).elim

include polling in
theorem safe_receive_read (safe : Safe config holder clock s)
    (reading : (s.replica i).phase = .reading started windowEnd deadline (some answer)) :
    Safe config holder clock (receiveRead config holder clock s i started windowEnd answer) := by
  cases answer with
  | none =>
    exact safe_send _ _ clock safe reading rfl rfl nofun
  | some existing =>
    simp only [receiveRead, decideWrite]
    by_cases allowed : mayTakeLease (existing.spec.bind (·.holderIdentity)) (isLeaseStale
        (existing.spec.bind (·.renewTime)) (configOf config holder i).leaseDuration (clock i started))
        (configOf config holder i).holderId = true
    · rw [if_pos allowed]
      refine safe_send _ _ clock safe reading rfl rfl ?_
      intro version wanted
      exact ⟨existing, rfl, some.inj wanted, allowed⟩
    · rw [if_neg allowed]
      exact safe_finish _ _ clock polling safe (.inl ⟨_, _, _, reading⟩) nofun

include polling in
theorem safe_receive_write {bound : Nat} {accepted : Bool} (safe : Safe config holder clock s)
    (writing : (s.replica i).phase = .writing started deadline bound request (some accepted)) :
    Safe config holder clock (setReplica s i (finishStep (configOf config holder i) (s.replica i) started
      (if accepted then .ok true else .error .kube))) := by
  refine safe_finish _ _ clock polling safe (.inr ⟨_, _, _, _, writing⟩) ?_
  intro confirmed
  cases accepted with
  | false => exact nomatch confirmed
  | true => exact .inr ⟨deadline, bound, request, writing⟩

theorem safe_serve_read
    (reading : (s.replica i).phase = .reading started windowEnd deadline none) (safe : Safe config holder clock s) :
    Safe config holder clock
      (setReplica s i { s.replica i with phase := .reading started windowEnd deadline (some s.lease) }) := by
  apply safe_replace _ _ clock safe
  · have timely := safe.timely i
    simp only [Timely, reading] at timely
    exact timely
  · intro started' windowEnd' deadline' seen waiting
    have lease := some.inj (Phase.reading.inj waiting).2.2.2
    exact ⟨seen, lease, Nat.le_refl _, fun _ => rfl⟩
  · exact nofun
  · intro stamp claims
    rcases claims with kept | ⟨_, _, _, waiting⟩
    · exact .inl kept
    · exact nomatch waiting

include polling in
theorem safe_wake {nextAttempt : Nat} (asleep : (s.replica i).phase = .sleeping nextAttempt) (safe : Safe config holder clock s) :
    Safe config holder clock (setReplica s i (beginStep (configOf config holder i) (s.replica i) s.now)) := by
  apply safe_replace _ _ clock safe
  · exact timely_begin polling asleep (safe.timely i)
  · intro started windowEnd deadline seen reading
    simp only [beginStep] at reading
    split at reading
    · exact nomatch reading
    · exact nomatch (Phase.reading.inj reading).2.2.2
  · intro started deadline bound request reply writing
    simp only [beginStep] at writing
    split at writing
    · exact nomatch writing
    · exact nomatch writing
  · exact claims_begin _

theorem safe_restart (i : Fin n) (start : Nat) (safe : Safe config holder clock s) :
    Safe config holder clock (setReplica s i (startedReplica start)) := by
  refine safe_replace _ _ clock safe ⟨rfl, nofun⟩ nofun nofun ?_
  intro stamp claims
  rcases claims with ⟨closed, _⟩ | ⟨_, _, _, waiting⟩
  · exact nomatch closed
  · exact nomatch waiting

include distinct in
theorem safe_step (polling : config.renewPeriod ≤ config.renewDeadline) (close : ClocksClose config clock)
    (s : State n) (action : Action n) (t : State n) (safe : Safe config holder clock s)
    (taken : step config holder clock s action = some t) : Safe config holder clock t := by
  cases action with
  | tick later =>
    simp only [step] at taken
    split_ifs at taken with allowed
    cases taken
    exact safe_tick _ _ clock allowed.1 allowed.2 safe
  | wake i =>
    simp only [step] at taken
    split at taken
    · rename_i nextAttempt asleep
      split_ifs at taken with due
      cases taken
      exact safe_wake _ _ clock polling asleep safe
    · exact nomatch taken
  | serveRead i =>
    simp only [step] at taken
    split at taken
    · rename_i started windowEnd deadline reading
      cases taken
      exact safe_serve_read _ _ clock reading safe
    · exact nomatch taken
  | receiveRead i =>
    simp only [step] at taken
    split at taken
    · rename_i started windowEnd deadline answer reading
      cases taken
      exact safe_receive_read _ _ clock polling safe reading
    · exact nomatch taken
  | serveWrite index =>
    obtain ⟨write, present, rfl⟩ := map_eq_some_iff.mp taken
    have member := mem_of_getElem? present
    cases committed : commitWrite write s.lease with
    | none => exact safe_refuse _ _ clock safe committed
    | some after => exact safe_commit _ _ clock distinct close safe member committed
  | receiveWrite i =>
    simp only [step] at taken
    split at taken
    · rename_i started deadline bound request accepted writing
      cases taken
      exact safe_receive_write _ _ clock polling safe writing
    · exact nomatch taken
  | failRequest i =>
    simp only [step] at taken
    split at taken
    · rename_i started windowEnd deadline reply reading
      cases taken
      exact safe_finish _ _ clock polling safe (.inl ⟨_, _, _, reading⟩) nofun
    · rename_i started deadline bound request reply writing
      cases taken
      exact safe_finish _ _ clock polling safe (.inr ⟨_, _, _, _, writing⟩) nofun
    · exact nomatch taken
  | timeout i =>
    simp only [step] at taken
    split at taken
    · rename_i started windowEnd deadline reply reading
      split_ifs at taken with due
      cases taken
      exact safe_finish _ _ clock polling safe (.inl ⟨_, _, _, reading⟩) nofun
    · rename_i started deadline bound request reply writing
      split_ifs at taken with due
      cases taken
      exact safe_finish _ _ clock polling safe (.inr ⟨_, _, _, _, writing⟩) nofun
    · exact nomatch taken
  | restart i start =>
    simp only [step] at taken
    split_ifs at taken with later
    cases taken
    exact safe_restart _ _ clock i start safe

include distinct in
theorem safe_reachable (polling : config.renewPeriod ≤ config.renewDeadline)
    (close : ClocksClose config clock) (reachable : (election config holder clock).Reachable s) : Safe config holder clock s :=
  (election config holder clock).invariant (Safe config holder clock) (safe_initial config holder clock)
    (safe_step _ _ clock distinct polling close) s reachable

include distinct in
theorem leader_mutual_exclusion (polling : config.renewPeriod ≤ config.renewDeadline) (close : ClocksClose config clock)
    (s : State n) (reachable : (election config holder clock).Reachable s) :
    (∀ i k, (s.replica i).isLeader = true → (s.replica k).isLeader = true → i = k) ∧ ∀ i, (s.replica i).isLeader = true →
        ∃ stamp, (s.replica i).renewedAt = some stamp ∧ s.now ≤ stamp + config.renewDeadline := by
  have safe := safe_reachable config holder clock distinct polling close reachable
  have renewed : ∀ i, (s.replica i).isLeader = true →
      ∃ stamp, (s.replica i).renewedAt = some stamp ∧ s.now ≤ stamp + config.renewDeadline := by
    intro i isOpen
    obtain ⟨stamp, held, _, fresh⟩ := timely_open (safe.timely i) isOpen
    exact ⟨stamp, held, fresh⟩
  refine ⟨?_, renewed⟩
  intro i k openI openK
  obtain ⟨stampI, heldI, _⟩ := renewed i openI
  obtain ⟨stampK, heldK, _⟩ := renewed k openK
  obtain ⟨current, spec, _, same, inner, signed, _⟩ := safe.held i stampI (.inl ⟨openI, heldI⟩)
  obtain ⟨current', spec', _, same', inner', signed', _⟩ := safe.held k stampK (.inl ⟨openK, heldK⟩)
  -- The Lease names one holder, and the holder ids tell the replicas apart.
  have lease : current = current' := some.inj (same.symm.trans same')
  subst lease
  have equal : spec = spec' := some.inj (inner.symm.trans inner')
  subst equal
  exact distinct (some.inj (signed.symm.trans signed'))

end Electorate

def takeover : List (Action 2) :=
  [.wake 0, .serveRead 0, .receiveRead 0, .serveWrite 0, .receiveWrite 0,
    .wake 1, .serveRead 1, .receiveRead 1, .tick 10000000, .wake 0, .wake 1, .serveRead 1, .receiveRead 1,
    .tick 15000000, .timeout 0, .wake 0, .tick 20000000, .timeout 0, .wake 0, .wake 1, .serveRead 1, .receiveRead 1,
    .tick 30000000, .wake 1, .serveRead 1, .receiveRead 1, .serveWrite 0, .receiveWrite 1]

def twoReplicas : State 2 := { now := 0, lease := none, nextRequest := 0, inFlight := [], replica := fun _ => startedReplica 0 }

def twoHolders : Fin 2 → String
  | 0 => "operator-0"
  | 1 => "operator-1"

theorem leader_mutual_exclusion_takeover : let config := forApprafterOperator "operator-0"
    let clock : Fin 2 → Nat → Int := fun i t => t + 1000000 * i
    ∃ s, (election config twoHolders clock).run twoReplicas takeover = some s ∧
      (s.replica 0).isLeader = false ∧ (s.replica 1).isLeader = true ∧
      (∀ i k, (s.replica i).isLeader = true → (s.replica k).isLeader = true → i = k) ∧
      ∀ i, (s.replica i).isLeader = true →
        ∃ stamp, (s.replica i).renewedAt = some stamp ∧ s.now ≤ stamp + config.renewDeadline := by
  intro config clock
  have start : (election config twoHolders clock).Reachable twoReplicas := .initial _ ⟨rfl, fun _ => ⟨0, rfl, Nat.le_refl _⟩⟩
  have close : ClocksClose config clock := by
    intro i k _ t u
    have small := i.isLt
    simp only [clock, config, forApprafterOperator, microsPerSecond]
    omega
  have gates : ((election config twoHolders clock).run twoReplicas takeover).map
      (fun s => ((s.replica 0).isLeader, (s.replica 1).isLeader)) = some (false, true) := by decide +kernel
  obtain ⟨s, finished, pair⟩ := map_eq_some_iff.mp gates
  have exclusive := leader_mutual_exclusion config twoHolders clock (by decide) (by decide) close s
    ((election config twoHolders clock).reachable_run twoReplicas start takeover s finished)
  exact ⟨s, finished, congrArg Prod.fst pair, congrArg Prod.snd pair, exclusive⟩

end AppRafter.Leader
