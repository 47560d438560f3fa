import AppRafter.Lib.Json
import AppRafter.Lib.Streak

set_option autoImplicit false

namespace AppRafter.Cli

open Lib

-- Durations are in milliseconds.
def podReadyTimeout : Nat := 300000

def containerConfigErrorGrace : Nat := 15000

def statusArray (pod : Json) (key : String) : List Json := (((pod.pointer ["status", key]).bind Json.asArr).getD [])

def hasStr (json : Json) (key value : String) : Bool := decide ((json.get key).bind Json.asStr = some value)

def podIsReady (pod : Json) : Bool :=
  decide ((pod.pointer ["status", "phase"]).bind Json.asStr = some "Running") &&
  (statusArray pod "conditions").any fun c => hasStr c "type" "Ready" && hasStr c "status" "True"

def containerConfigError (pod : Json) : Option String :=
  (((statusArray pod "containerStatuses").filterMap fun c => c.pointer ["state", "waiting"]).find?
    fun waiting => hasStr waiting "reason" "CreateContainerConfigError").map fun waiting =>
      (((waiting.get "message").bind Json.asStr).filter fun message => message ≠ "").getD "CreateContainerConfigError"

abbrev ConfigErrorWatch := Streak Unit

def ConfigErrorWatch.look (watch : ConfigErrorWatch) (pod : Json) (now grace : Nat) : Option String × ConfigErrorWatch :=
  match containerConfigError pod with
  | none => (none, Streak.fresh)
  | some why =>
    let next := Streak.observe watch (some ()) now
    (if (next.elapsed now).any fun held => decide (grace ≤ held) then some why else none, next)

-- One round of the wait: the flag, the read and the clock.
structure ReadyLook where
  interrupted : Bool
  pod : Except String (Option Json)
  now : Nat

inductive ReadyEnd where
  | interrupted
  | unread (e : String)
  | gone
  | ready
  | configError (why : String)
  | timedOut
  deriving DecidableEq

def readyStep (deadline grace : Nat) (look : ReadyLook) (watch : ConfigErrorWatch) : Option ReadyEnd × ConfigErrorWatch :=
  if look.interrupted then (some .interrupted, watch)
  else match look.pod with
    | .error e => (some (.unread e), watch)
    | .ok none => (some .gone, watch)
    | .ok (some pod) =>
      if podIsReady pod then (some .ready, watch)
      else match watch.look pod look.now grace with
        | (some why, next) => (some (.configError why), next)
        | (none, next) => (if deadline ≤ look.now then some .timedOut else none, next)

def ReadyEnd.blamesConfig : ReadyEnd → Bool
  | .configError _ => true
  | _ => false

-- A pod read, not Ready, that the kubelet cannot configure.
def ReadyLook.blocked (look : ReadyLook) : Option Unit :=
  match look.interrupted, look.pod with
  | false, .ok (some pod) => if podIsReady pod then none else (containerConfigError pod).map fun _ => ()
  | _, _ => none

section Look

variable (deadline grace : Nat) (look : ReadyLook) (watch : ConfigErrorWatch)

theorem look_blames_iff : ((readyStep deadline grace look watch).1.any ReadyEnd.blamesConfig) = true ↔
    Streak.Ripe (fun _ => grace) (watch.observe look.blocked look.now) look.now := by
  have idle : ¬Streak.Ripe (fun _ => grace) (watch.observe none look.now) look.now := Streak.not_ripe look.now rfl
  obtain ⟨interrupted, read, now⟩ := look
  cases interrupted with
  | true => exact ⟨nofun, fun ripe => absurd ripe idle⟩
  | false =>
    cases read with
    | error e => exact ⟨nofun, fun ripe => absurd ripe idle⟩
    | ok found =>
      cases found with
      | none => exact ⟨nofun, fun ripe => absurd ripe idle⟩
      | some pod =>
        by_cases ready : podIsReady pod = true
        · simp only [readyStep, ReadyLook.blocked, ready, Bool.false_eq_true, reduceIte]
          exact ⟨nofun, fun ripe => absurd ripe idle⟩
        · simp only [readyStep, ReadyLook.blocked, ready, Bool.false_eq_true, reduceIte, ConfigErrorWatch.look]
          cases containerConfigError pod with
          | none =>
            refine ⟨fun blames => ?_, fun ripe => absurd ripe idle⟩
            dsimp only at blames
            split at blames <;> cases blames
          | some why =>
            obtain ⟨since, running⟩ := Streak.observed_running watch () now
            have elapsed : (Streak.observe watch (some ()) now).elapsed now = some (now - since) := congrArg (Option.map _) running
            simp only [Option.map_some]
            rw [Streak.ripe_iff now running, elapsed]
            by_cases long : grace ≤ now - since
            · simp [long, ReadyEnd.blamesConfig]
            · simp only [Option.any_some, long, decide_false, Bool.false_eq_true, reduceIte, iff_false, Bool.not_eq_true]
              split <;> rfl

theorem ready_observes (goes : (readyStep deadline grace look watch).1 = none) :
    (readyStep deadline grace look watch).2 = watch.observe look.blocked look.now := by
  obtain ⟨interrupted, read, now⟩ := look
  cases interrupted with
  | true => cases goes
  | false =>
    cases read with
    | error e => cases goes
    | ok found =>
      cases found with
      | none => cases goes
      | some pod =>
        by_cases ready : podIsReady pod = true
        · simp only [readyStep, ready, Bool.false_eq_true, reduceIte] at goes
          cases goes
        · simp only [readyStep, ReadyLook.blocked, ready, Bool.false_eq_true, reduceIte, ConfigErrorWatch.look] at goes ⊢
          cases blocked : containerConfigError pod with
          | none => rfl
          | some why =>
            clear goes
            dsimp only [Option.map_some]
            generalize (if ((Streak.observe watch (some ()) now).elapsed now).any (fun held => decide (grace ≤ held)) then
              some why else none) = verdict
            cases verdict <;> rfl

end Look

def readyPoll (deadline grace : Nat) : Poll ReadyLook ReadyEnd Unit where
  step := readyStep deadline grace
  sight look := (look.blocked, look.now)
  observes look watch goes := ready_observes deadline grace look watch goes

def waitPodReady (started : Nat) (looks : List ReadyLook) : Option (ReadyLook × ReadyEnd) :=
  (readyPoll (started + podReadyTimeout) containerConfigErrorGrace).run looks

-- The wait blames the container's configuration at the first look that ends an unbroken grace of looks at that error.
theorem config_error_iff {started : Nat} {looks : List ReadyLook} {look : ReadyLook}
    (ordered : (looks.map ReadyLook.now).Pairwise (· ≤ ·)) :
    (∃ ending, waitPodReady started looks = some (look, ending) ∧ ending.blamesConfig = true) ↔
      ∃ before rest, looks = before ++ look :: rest ∧ waitPodReady started before = none ∧
        ∃ blocked since, Streak.Stretch ((before ++ [look]).map fun look => (look.blocked, look.now)) blocked since ∧
          containerConfigErrorGrace ≤ look.now - since :=
  Poll.run_quits_iff ReadyEnd.blamesConfig (fun _ => containerConfigErrorGrace) (look_blames_iff _ _) ordered

def unsyncedPod : Json :=
  .obj [("status", .obj [("phase", .str "Pending"), ("containerStatuses", .arr [.obj [("state",
  .obj [("waiting", .obj [("reason", .str "CreateContainerConfigError"), ("message", .str "couldn't find key pass")])])]])])]

def unsyncedLook (now : Nat) : ReadyLook := ⟨false, .ok (some unsyncedPod), now⟩

theorem config_error_iff_unsynced :
    (∃ ending, waitPodReady 0 [unsyncedLook 0, unsyncedLook 15000] = some (unsyncedLook 15000, ending) ∧ ending.blamesConfig = true) ↔
      ∃ before rest, [unsyncedLook 0, unsyncedLook 15000] = before ++ unsyncedLook 15000 :: rest ∧ waitPodReady 0 before = none ∧
        ∃ blocked since, Streak.Stretch ((before ++ [unsyncedLook 15000]).map fun look => (look.blocked, look.now)) blocked since ∧
          containerConfigErrorGrace ≤ (unsyncedLook 15000).now - since :=
  config_error_iff (by decide)

end AppRafter.Cli
