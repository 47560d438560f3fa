import AppRafter.Leader.Election

set_option autoImplicit false

namespace AppRafter.Leader

open Option

-- A renewal is a read and a write served before any other.
inductive LeaseEvent where
  | attempt (config : LeaderConfig) (now : Int)
  | release
  | delete

-- The Lease, with the time its present holder took it.
structure Tenure where
  lease : Option Lease := none
  since : Option Int := none

variable (tenure : Tenure)

def Tenure.spec : Option LeaseSpec := tenure.lease.bind (·.spec)

def Tenure.holder : Option String := tenure.spec.bind (·.holderIdentity)

def Tenure.acquired : Option Int := tenure.spec.bind (·.acquireTime)

def Tenure.stale (config : LeaderConfig) (now : Int) : Bool :=
  isLeaseStale (tenure.spec.bind (·.renewTime)) config.leaseDuration now

def taken (config : LeaderConfig) (now : Int) : Option Int :=
  if tenure.holder = some config.holderId then tenure.since else some now

def attempt (config : LeaderConfig) (now : Int) : Tenure :=
  match decideWrite config now tenure.lease with
  | .create spec => ⟨some ⟨1, some spec⟩, some now⟩
  | .replace version spec => ⟨some ⟨version + 1, some spec⟩, taken tenure config now⟩
  | .leave => tenure

def vacate (lease : Lease) : Lease := ⟨lease.resourceVersion + 1, lease.spec.map fun spec => { spec with holderIdentity := none }⟩

def befall : LeaseEvent → Tenure
  | .attempt config now => attempt tenure config now
  | .release => ⟨tenure.lease.map vacate, none⟩
  | .delete => {}

def Told : Prop := ∀ holder, tenure.holder = some holder → tenure.acquired = tenure.since

def RenewalKeeps : LeaseEvent → Prop
  | .attempt config now => tenure.holder = some config.holderId → (attempt tenure config now).acquired = tenure.acquired
  | .release => True
  | .delete => True

def Stamps : LeaseEvent → Prop
  | .attempt config now =>
    tenure.lease ≠ none → mayTakeLease tenure.holder (tenure.stale config now) config.holderId = true →
      tenure.holder = some config.holderId ∨ ∀ acquired, tenure.acquired = some acquired → acquired = now
  | .release => True
  | .delete => True

def AllTold : Tenure → List LeaseEvent → Prop
  | _, [] => True
  | tenure, event :: later =>
    Told (befall tenure event) ∧ RenewalKeeps tenure event ∧ AllTold (befall tenure event) later

def AllStamp : Tenure → List LeaseEvent → Prop
  | _, [] => True
  | tenure, event :: later => Stamps tenure event ∧ AllStamp (befall tenure event) later

section Writes

variable (tenure : Tenure) (config : LeaderConfig) (now : Int)

theorem attempt_absent (absent : tenure.lease = none) :
    attempt tenure config now = ⟨some ⟨1, some (leaseSpec config now none)⟩, some now⟩ := by
  rw [attempt, absent, decideWrite]

variable (lease : Lease)

theorem attempt_refused (held : tenure.lease = some lease)
    (refused : mayTakeLease tenure.holder (tenure.stale config now) config.holderId = false) :
    attempt tenure config now = tenure := by
  rw [Tenure.stale, Tenure.holder, Tenure.spec, held, bind_some] at refused
  rw [attempt, held, decideWrite]
  simp [refused]

theorem attempt_taken (held : tenure.lease = some lease)
    (allowed : mayTakeLease tenure.holder (tenure.stale config now) config.holderId = true) :
    attempt tenure config now =
      ⟨some ⟨lease.resourceVersion + 1, some (leaseSpec config now tenure.spec)⟩, taken tenure config now⟩ := by
  have spec : tenure.spec = lease.spec := by rw [Tenure.spec, held, bind_some]
  rw [Tenure.stale, Tenure.holder, spec] at allowed
  rw [attempt, held, decideWrite]
  simp [allowed, spec]

theorem taken_acquired (held : tenure.lease = some lease)
    (allowed : mayTakeLease tenure.holder (tenure.stale config now) config.holderId = true) :
    (attempt tenure config now).holder = some config.holderId ∧
      (attempt tenure config now).acquired = some (tenure.acquired.getD now) ∧
      (attempt tenure config now).since = taken tenure config now := by
  rw [attempt_taken tenure config now lease held allowed]
  exact ⟨rfl, rfl, rfl⟩

end Writes

def Stamped : Prop := ∀ holder, tenure.holder = some holder → tenure.acquired ≠ none

theorem vacated_holder (lease : Option Lease) (since : Option Int) : (⟨lease.map vacate, since⟩ : Tenure).holder = none := by
  cases lease with
  | none => rfl
  | some lease =>
    cases spec : lease.spec with
    | none | some => simp [Tenure.holder, Tenure.spec, vacate, spec]

variable (tenure : Tenure)

theorem stamped_befall (event : LeaseEvent) (stamped : Stamped tenure) : Stamped (befall tenure event) := by
  cases event with
  | attempt config now =>
    intro holder
    rw [befall]
    cases held : tenure.lease with
    | none =>
      rw [attempt_absent tenure config now held]
      simp [Tenure.acquired, Tenure.spec, leaseSpec]
    | some lease =>
      cases allowed : mayTakeLease tenure.holder (tenure.stale config now) config.holderId with
      | false =>
        rw [attempt_refused tenure config now lease held allowed]
        exact stamped holder
      | true =>
        rw [(taken_acquired tenure config now lease held allowed).2.1]
        simp
  | release =>
    intro holder held
    rw [befall, vacated_holder] at held
    cases held
  | delete =>
    intro holder held
    cases held

-- A step keeps the tenure told, and what a renewal finds, just where it stamps its own time.
theorem told_step_iff (event : LeaseEvent) (told : Told tenure) (stamped : Stamped tenure) :
    (Told (befall tenure event) ∧ RenewalKeeps tenure event) ↔ Stamps tenure event := by
  cases event with
  | release =>
    refine iff_of_true ⟨?_, trivial⟩ trivial
    intro holder held
    rw [befall, vacated_holder] at held
    cases held
  | delete =>
    refine iff_of_true ⟨?_, trivial⟩ trivial
    intro holder held
    cases held
  | attempt config now =>
    cases held : tenure.lease with
    | none =>
      have nobody : tenure.holder = none := by simp [Tenure.holder, Tenure.spec, held]
      refine iff_of_true ⟨?_, ?_⟩ fun present => absurd held present
      · rw [befall, attempt_absent tenure config now held]
        intro holder _
        rfl
      · intro own
        rw [nobody] at own
        cases own
    | some lease =>
      cases allowed : mayTakeLease tenure.holder (tenure.stale config now) config.holderId with
      | false =>
        have same := attempt_refused tenure config now lease held allowed
        refine iff_of_true ⟨?_, ?_⟩ fun _ takes => absurd (takes.symm.trans allowed) (by decide)
        · rw [befall, same]
          exact told
        · intro _
          rw [same]
      | true =>
        obtain ⟨holder, acquired, since⟩ := taken_acquired tenure config now lease held allowed
        have present : tenure.lease ≠ none := by simp [held]
        by_cases own : tenure.holder = some config.holderId
        · have kept : (attempt tenure config now).acquired = tenure.acquired := by
            obtain ⟨at_, stamp⟩ := ne_none_iff_exists'.mp (stamped config.holderId own)
            rw [acquired, stamp, getD_some]
          refine iff_of_true ⟨?_, fun _ => kept⟩ fun _ _ => .inl own
          intro _ _
          rw [befall, kept, since, taken, if_pos own]
          exact told config.holderId own
        · have began : (attempt tenure config now).since = some now := by rw [since, taken, if_neg own]
          constructor
          · rintro ⟨tells, _⟩ _ _
            right
            intro at_ stamp
            have equal := tells config.holderId holder
            rw [befall, acquired, began, stamp] at equal
            exact some.inj equal
          · intro stamps
            have fresh := (stamps present allowed).resolve_left own
            refine ⟨?_, fun mine => absurd mine own⟩
            intro _ _
            rw [befall, acquired, began]
            cases stamp : tenure.acquired with
            | none => rfl
            | some at_ => rw [getD_some, fresh at_ stamp]

theorem told_run_iff (events : List LeaseEvent) (told : Told tenure) (stamped : Stamped tenure) :
    AllTold tenure events ↔ AllStamp tenure events := by
  induction events generalizing tenure with
  | nil => exact Iff.rfl
  | cons event later ih =>
    have step := told_step_iff tenure event told stamped
    constructor
    · rintro ⟨tells, keeps, rest⟩
      exact ⟨step.mp ⟨tells, keeps⟩, (ih _ tells (stamped_befall tenure event stamped)).mp rest⟩
    · rintro ⟨stamps, rest⟩
      obtain ⟨tells, keeps⟩ := step.mpr stamps
      exact ⟨tells, keeps, (ih _ tells (stamped_befall tenure event stamped)).mpr rest⟩

theorem acquire_time_told_iff (events : List LeaseEvent) : AllTold {} events ↔ AllStamp {} events :=
  told_run_iff {} events (fun _ held => by cases held) fun _ held => by cases held

def takenOver : List LeaseEvent :=
  [.attempt (forApprafterOperator "operator-a") 0, .attempt (forApprafterOperator "operator-b") 60000000]

theorem taken_over_untold : ¬AllTold {} takenOver := by
  rintro ⟨_, _, tells, _⟩
  have equal := tells "operator-b" (by decide)
  exact absurd equal (by decide)

end AppRafter.Leader
