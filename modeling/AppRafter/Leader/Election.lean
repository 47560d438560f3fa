import Mathlib.Logic.Function.Basic
import AppRafter.Lib.System

set_option autoImplicit false

namespace AppRafter.Leader

-- Microseconds, the resolution of a Lease's MicroTime.
def microsPerSecond : Nat := 1000000

def asSecs (duration : Nat) : Nat := duration / microsPerSecond

structure LeaderConfig where
  holderId : String
  leaseDuration : Nat
  renewPeriod : Nat
  renewDeadline : Nat
  retryPeriod : Nat
  readTimeout : Nat

def forApprafterOperator (holderId : String) : LeaderConfig :=
  { holderId := holderId
    leaseDuration := 30 * microsPerSecond
    renewPeriod := 10 * microsPerSecond
    renewDeadline := 20 * microsPerSecond
    retryPeriod := 2 * microsPerSecond
    readTimeout := 5 * microsPerSecond }

structure LeaseSpec where
  holderIdentity : Option String
  leaseDurationSeconds : Option Int
  acquireTime : Option Int
  renewTime : Option Int
deriving DecidableEq

structure Lease where
  resourceVersion : Nat
  spec : Option LeaseSpec
deriving DecidableEq

inductive Request where
  | read
  | write

inductive LeaderError where
  | kube
  | timeout (request : Request) (after : Nat)
  | lostLeadership (failures : Nat) (since : Nat)
  | deposed

variable (config : LeaderConfig)

-- `as i32` keeps the low 32 bits of the seconds.
def leaseSpec (now : Int) (prior : Option LeaseSpec) : LeaseSpec :=
  { holderIdentity := some config.holderId
    leaseDurationSeconds := some (Int.bmod (asSecs config.leaseDuration) 4294967296)
    acquireTime := some ((prior.bind (·.acquireTime)).getD now)
    renewTime := some now }

def mayTakeLease (holder : Option String) (stale : Bool) (me : String) : Bool := holder == some me || stale

def stepWindow : Option Nat → Option Nat
  | none => some config.renewPeriod
  | some since =>
    if since ≤ config.renewDeadline then
      let left := config.renewDeadline - since
      if left = 0 then none else some left
    else none

def requestBound (request : Request) (left : Nat) : Nat :=
  match request with
  | .read => min left config.readTimeout
  | .write => left

-- num_seconds truncates toward zero, as Int.tdiv does.
def isLeaseStale (renewTime : Option Int) (leaseDuration : Nat) (now : Int) : Bool :=
  match renewTime with
  | some t => decide ((now - t).tdiv microsPerSecond > asSecs leaseDuration)
  | none => true

-- The reply fields hold an answer that has not reached the caller yet.
inductive Phase where
  | sleeping (nextAttempt : Nat)
  | reading (started windowEnd deadline : Nat) (reply : Option (Option Lease))
  | writing (started deadline : Nat) (bound : Nat) (request : Nat) (reply : Option Bool)
  | returned (why : LeaderError)

structure Replica where
  isLeader : Bool
  renewedAt : Option Nat
  consecutiveFailures : Nat
  phase : Phase

-- A write stays in flight after its caller stopped waiting; the apiserver ignores `started`.
structure WriteRequest (n : Nat) where
  request : Nat
  owner : Fin n
  started : Nat
  expected : Option Nat
  spec : LeaseSpec
deriving DecidableEq

structure State (n : Nat) where
  now : Nat
  lease : Option Lease
  nextRequest : Nat
  inFlight : List (WriteRequest n)
  replica : Fin n → Replica

variable (replica : Replica)

def stepDown (why : LeaderError) : Replica := { replica with isLeader := false, phase := .returned why }

def saturatingAddOne (count : Nat) : Nat := min (count + 1) 4294967295

-- The match on `step` at the end of one turn of the loop in `run`.
def finishStep (started : Nat) : Except LeaderError Bool → Replica
  | .ok true =>
    { isLeader := true
      renewedAt := some started
      consecutiveFailures := 0
      phase := .sleeping (started + config.renewPeriod) }
  | .ok false =>
    match replica.renewedAt with
    | some _ => stepDown replica .deposed
    | none => { replica with consecutiveFailures := 0, phase := .sleeping (started + config.renewPeriod) }
  | .error _ =>
    { replica with
      consecutiveFailures := saturatingAddOne replica.consecutiveFailures
      phase := .sleeping (match replica.renewedAt with
        | some stamp => min (started + config.retryPeriod) (stamp + config.renewDeadline)
        | none => started + config.renewPeriod) }

-- The top of the loop: the window, then the Lease read under its bound.
def beginStep (started : Nat) : Replica :=
  let since := replica.renewedAt.map (started - ·)
  match stepWindow config since with
  | none => stepDown replica (.lostLeadership replica.consecutiveFailures (since.getD 0))
  | some window =>
    { replica with
      phase := .reading started (started + window) (started + requestBound config .read window) none }

inductive Decision where
  | create (spec : LeaseSpec)
  | replace (resourceVersion : Nat) (spec : LeaseSpec)
  | leave

-- acquire_or_renew between its read and its write.
def decideWrite (now : Int) : Option Lease → Decision
  | none => .create (leaseSpec config now none)
  | some existing =>
    let stale := isLeaseStale (existing.spec.bind (·.renewTime)) config.leaseDuration now
    if mayTakeLease (existing.spec.bind (·.holderIdentity)) stale config.holderId then
      .replace existing.resourceVersion (leaseSpec config now existing.spec)
    else .leave

-- The apiserver's atomic create and its resourceVersion-checked replace.
def commitWrite {n : Nat} (write : WriteRequest n) : Option Lease → Option (Option Lease)
  | none =>
    match write.expected with
    | none => some (some ⟨1, some write.spec⟩)
    | some _ => none
  | some lease =>
    if write.expected = some lease.resourceVersion then
      some (some ⟨lease.resourceVersion + 1, some write.spec⟩)
    else none

def timerOf : Option Nat :=
  match replica.phase with
  | .sleeping nextAttempt => some nextAttempt
  | .reading _ _ deadline _ => some deadline
  | .writing _ deadline _ _ _ => some deadline
  | .returned _ => none

def onTime (now : Nat) : Bool :=
  match timerOf replica with
  | some timer => decide (now ≤ timer)
  | none => true

def startedReplica (start : Nat) : Replica :=
  { isLeader := false, renewedAt := none, consecutiveFailures := 0, phase := .sleeping start }

inductive Action (n : Nat) where
  | tick (later : Nat)
  | wake (i : Fin n)
  | serveRead (i : Fin n)
  | receiveRead (i : Fin n)
  | serveWrite (index : Nat)
  | receiveWrite (i : Fin n)
  | failRequest (i : Fin n)
  | timeout (i : Fin n)
  | restart (i : Fin n) (start : Nat)

section Electorate

variable {n : Nat} (config : LeaderConfig) (holder : Fin n → String) (clock : Fin n → Nat → Int)

def configOf (i : Fin n) : LeaderConfig := { config with holderId := holder i }

variable (s : State n)

def setReplica (i : Fin n) (replica : Replica) : State n :=
  { s with replica := Function.update s.replica i replica }

def sendWrite (i : Fin n) (started windowEnd : Nat) (expected : Option Nat) (spec : LeaseSpec) : State n :=
  let write : WriteRequest n := ⟨s.nextRequest, i, started, expected, spec⟩
  let bound := requestBound (configOf config holder i) .write (windowEnd - s.now)
  { setReplica s i { s.replica i with phase := .writing started (s.now + bound) bound s.nextRequest none } with
    nextRequest := s.nextRequest + 1
    inFlight := s.inFlight ++ [write] }

def receiveRead (i : Fin n) (started windowEnd : Nat) (answer : Option Lease) : State n :=
  match decideWrite (configOf config holder i) (clock i started) answer with
  | .create spec => sendWrite config holder s i started windowEnd none spec
  | .replace resourceVersion spec => sendWrite config holder s i started windowEnd (some resourceVersion) spec
  | .leave => setReplica s i (finishStep (configOf config holder i) (s.replica i) started (.ok false))

-- The reply is only ever handed to the caller still waiting for this request.
def answerWrite (request : Nat) (reply : Bool) : Replica :=
  match replica.phase with
  | .writing started deadline bound awaited none =>
    if awaited = request then { replica with phase := .writing started deadline bound awaited (some reply) }
    else replica
  | _ => replica

def serveWrite (write : WriteRequest n) : State n :=
  let rest := { s with inFlight := s.inFlight.erase write }
  match commitWrite write s.lease with
  | some lease =>
    { setReplica rest write.owner (answerWrite (s.replica write.owner) write.request true) with lease := lease }
  | none => setReplica rest write.owner (answerWrite (s.replica write.owner) write.request false)

def failStep (i : Fin n) (started : Nat) (why : LeaderError) : State n :=
  setReplica s i (finishStep (configOf config holder i) (s.replica i) started (.error why))

def step : Action n → Option (State n)
  | .tick later =>
    if s.now ≤ later ∧ ∀ i, onTime (s.replica i) later = true then some { s with now := later } else none
  | .wake i =>
    match (s.replica i).phase with
    | .sleeping nextAttempt =>
      if nextAttempt ≤ s.now then some (setReplica s i (beginStep (configOf config holder i) (s.replica i) s.now))
      else none
    | _ => none
  | .serveRead i =>
    match (s.replica i).phase with
    | .reading started windowEnd deadline none =>
      some (setReplica s i { s.replica i with phase := .reading started windowEnd deadline (some s.lease) })
    | _ => none
  | .receiveRead i =>
    match (s.replica i).phase with
    | .reading started windowEnd _ (some answer) => some (receiveRead config holder clock s i started windowEnd answer)
    | _ => none
  | .serveWrite index => (s.inFlight[index]?).map (serveWrite s)
  | .receiveWrite i =>
    match (s.replica i).phase with
    | .writing started _ _ _ (some accepted) =>
      some (setReplica s i (finishStep (configOf config holder i) (s.replica i) started
        (if accepted then .ok true else .error .kube)))
    | _ => none
  | .failRequest i =>
    match (s.replica i).phase with
    | .reading started _ _ _ => some (failStep config holder s i started .kube)
    | .writing started _ _ _ _ => some (failStep config holder s i started .kube)
    | _ => none
  | .timeout i =>
    match (s.replica i).phase with
    | .reading started _ deadline _ =>
      if s.now = deadline then some (failStep config holder s i started (.timeout .read (deadline - started)))
      else none
    | .writing started deadline bound _ _ =>
      if s.now = deadline then some (failStep config holder s i started (.timeout .write bound)) else none
    | _ => none
  | .restart i start => if s.now ≤ start then some (setReplica s i (startedReplica start)) else none

def Initial : Prop := s.inFlight = [] ∧ ∀ i, ∃ start, s.replica i = startedReplica start ∧ s.now ≤ start

def election : Lib.System (State n) (Action n) where
  initial := Initial
  step := step config holder clock

end Electorate

end AppRafter.Leader
