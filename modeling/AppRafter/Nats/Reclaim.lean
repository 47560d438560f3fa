import AppRafter.Provisioner.Names
import AppRafter.Nats.Durables

set_option autoImplicit false

namespace AppRafter.Nats

open Lib Application List
open Provisioner (ClaimKey k8sName)

def defaultNatsSystemNamespace : String := "nats-system"

def defaultCnpgNamespace : String := "cnpg-system"

-- A stream of the account, as STREAM.LIST reports it.
structure StreamSummary where
  name : String
  subjects : List String
deriving DecidableEq

inductive NackKind where
  | stream
  | consumer
  | account
deriving DecidableEq

structure NackObject where
  kind : NackKind
  ns : String
  name : String
deriving DecidableEq

structure Materialised where
  objects : List NackObject := []
  streams : List StreamSummary := []

section Provision

-- nats::quantity_bytes is floating point; only whether it reads the text matters here.
variable (quantityBytes : String → Option Int) (configNs : Option String)

def provisionNs : String := configNs.getD defaultNatsSystemNamespace

def quantified (stream : JetStreamStream) : Bool := (quantityBytes stream.maxBytes).isSome

-- A stream whose maxBytes does not parse ends the pass, before the consumers.
def applyDeclared (claim : ResourceClaim) : Materialised :=
  match claim.spec.jetstream, declaringApp claim with
  | some js, some app =>
    let streams := materialisedStreams app js
    let applied := streams.takeWhile (quantified quantityBytes)
    let consumers := if streams.all (quantified quantityBytes) then js.consume else []
    { objects := (applied.map fun stream => ⟨.stream, provisionNs configNs, claim.ns ++ "-" ++ app ++ "-" ++ stream.name⟩) ++
          consumers.map fun consume => ⟨.consumer, provisionNs configNs, claim.ns ++ "-" ++ app ++ "-" ++ consume.durable⟩
      streams := applied.map fun stream => ⟨natsStreamName app stream.name, stream.subjects⟩ }
  | _, _ => {}

def deleteNatsDeclaredObjects (claim : ResourceClaim) : List NackObject :=
  match claim.spec.jetstream, declaringApp claim with
  | some js, some app =>
    (js.streams.map fun stream => ⟨.stream, provisionNs configNs, claim.ns ++ "-" ++ app ++ "-" ++ stream.name⟩) ++
      js.consume.map fun consume => ⟨.consumer, provisionNs configNs, claim.ns ++ "-" ++ app ++ "-" ++ consume.durable⟩
  | _, _ => []

structure RetainedClaim where
  name : String
  claimRef : ClaimKey
  natsNamespace : Option String := none
  natsApp : Option String := none
  natsDeclaredStreams : Option (List String) := none
  natsDeclaredConsumers : Option (List String) := none
  retainUntil : Nat

def gracePeriod : Nat := 7 * 24 * 60 * 60

def snapshotRetainedClaim (claim : ResourceClaim) (deletion : Nat) : RetainedClaim :=
  { name := k8sName ⟨claim.ns, claim.name⟩
    claimRef := ⟨claim.ns, claim.name⟩
    natsNamespace := some (configNs.getD defaultCnpgNamespace)
    natsApp := some ((declaringApp claim).getD "")
    natsDeclaredStreams := some ((claim.spec.jetstream.map fun js => js.streams.map (·.name)).getD [])
    natsDeclaredConsumers := some ((claim.spec.jetstream.map fun js => js.consume.map (·.durable)).getD [])
    retainUntil := deletion + gracePeriod }

end Provision

def subjectsWhollyUnder (subjects : List String) (appPrefix : String) : Bool :=
  !subjects.isEmpty && subjects.all fun subject => Text.startsWith subject appPrefix

def subjectsTouch (subjects : List String) (appPrefix : String) : Bool :=
  subjects.any fun subject => Text.startsWith subject appPrefix

structure NatsSweep where
  sweep : List String := []
  unattributed : List String := []

section Plan

variable (streams : List StreamSummary) (app : String) (declared protectedNames : List String)

def swept (stream : StreamSummary) : Bool :=
  declared.contains stream.name ||
    !protectedNames.contains stream.name && !app.toList.isEmpty && subjectsWhollyUnder stream.subjects (app ++ ".")

def reported (stream : StreamSummary) : Bool :=
  !declared.contains stream.name && !protectedNames.contains stream.name && !app.toList.isEmpty &&
    !subjectsWhollyUnder stream.subjects (app ++ ".") &&
    (subjectsTouch stream.subjects (app ++ ".") || stream.subjects.isEmpty)

def natsSweepPlan : NatsSweep :=
  { sweep := sortDedup ((streams.filter (swept app declared protectedNames)).map (·.name))
    unattributed := sortDedup ((streams.filter (reported app declared protectedNames)).map (·.name)) }

def natsSweepFor (namespaceStillClaimed : Bool) : NatsSweep :=
  if namespaceStillClaimed then natsSweepPlan streams app declared protectedNames
  else { sweep := sortDedup (streams.map (·.name)), unattributed := [] }

end Plan

def protectedStreamNames (liveClaims : List ResourceClaim) (ns : String) : List String :=
  sortDedup (liveClaims.flatMap fun claim =>
    if claim.ns ≠ ns then []
    else
      match claim.spec.jetstream, declaringApp claim with
      | some js, some app => js.streams.map fun stream => natsStreamName app stream.name
      | _, _ => [])

def namespaceStillClaimed (liveClaims : List ResourceClaim) (ns : String) : Bool :=
  liveClaims.any fun claim => claim.spec.type == "jetstream" && claim.ns == ns

def claimIsLive (claim : ResourceClaim) : Bool := claim.deletionTimestamp.isNone

def shouldGc (retainUntil now : Nat) : Bool := decide (retainUntil ≤ now)

-- NACK's objects, and streams of the account at the server the snapshot names.
structure GcPass where
  objects : List NackObject := []
  server : String := ""
  streams : List String := []
  snapshot : Bool := false

section Pass

variable (snapshot : RetainedClaim) (claims : List ResourceClaim)

def gcNs : String := (snapshot.natsNamespace.filter fun ns => !ns.toList.isEmpty).getD defaultNatsSystemNamespace

def gcApp : String := snapshot.natsApp.getD ""

def gcDeclared : List String := (snapshot.natsDeclaredStreams.getD []).map (natsStreamName (gcApp snapshot))

def accountK8sName (ns : String) : String := "ns-" ++ ns

-- None where a server's Secret cannot be read or it does not answer STREAM.LIST.
def gcDropNats (servers : String → Option (List StreamSummary)) : GcPass :=
  let ns := snapshot.claimRef.ns
  let app := gcApp snapshot
  let claimed := namespaceStillClaimed claims ns
  let own := if app.toList.isEmpty then [] else
      ((snapshot.natsDeclaredStreams.getD []).map fun declared =>
        ⟨.stream, gcNs snapshot, ns ++ "-" ++ app ++ "-" ++ declared⟩) ++
      (snapshot.natsDeclaredConsumers.getD []).map fun declared =>
        ⟨.consumer, gcNs snapshot, ns ++ "-" ++ app ++ "-" ++ declared⟩
  let plan : NatsSweep := match servers (gcNs snapshot) with
    | none => {}
    | some streams => natsSweepFor streams app (gcDeclared snapshot) (protectedStreamNames claims ns) claimed
  { objects := own ++ if claimed then [] else [⟨.account, gcNs snapshot, accountK8sName ns⟩]
    server := gcNs snapshot
    streams := plan.sweep
    snapshot := true }

def recovered : Bool :=
  claims.any fun claim =>
  claim.ns == snapshot.claimRef.ns && claim.name == snapshot.claimRef.name && claimIsLive claim

def gcReconcile (now : Nat) (servers : String → Option (List StreamSummary)) : GcPass :=
  if !shouldGc snapshot.retainUntil now then {}
  else if recovered snapshot claims then { snapshot := true }
  else gcDropNats snapshot claims servers

end Pass

theorem mem_sweep_for (streams : List StreamSummary) (app : String) (declared protectedNames : List String)
    (claimed : Bool) (name : String) :
    name ∈ (natsSweepFor streams app declared protectedNames claimed).sweep ↔
      ∃ stream ∈ streams, stream.name = name ∧ (claimed = false ∨ swept app declared protectedNames stream = true) := by
  cases claimed with
  | false => simp [natsSweepFor]
  | true =>
    simp only [natsSweepFor, if_pos, natsSweepPlan, mem_sort_dedup, mem_map, mem_filter]
    constructor
    · rintro ⟨stream, ⟨member, chosen⟩, same⟩
      exact ⟨stream, member, same, .inr chosen⟩
    · rintro ⟨stream, member, same, unclaimed | chosen⟩
      · cases unclaimed
      · exact ⟨stream, ⟨member, chosen⟩, same⟩

-- All of the account's once no claim is left in the namespace, else those the sweep takes.
theorem mem_reconcile_streams {snapshot : RetainedClaim} {claims : List ResourceClaim} {now : Nat}
    (servers : String → Option (List StreamSummary)) (expired : shouldGc snapshot.retainUntil now = true)
    (gone : recovered snapshot claims = false) (name : String) :
    name ∈ (gcReconcile snapshot claims now servers).streams ↔ ∃ stream ∈ (servers (gcNs snapshot)).getD [], stream.name = name ∧
        (namespaceStillClaimed claims snapshot.claimRef.ns = false ∨
          swept (gcApp snapshot) (gcDeclared snapshot) (protectedStreamNames claims snapshot.claimRef.ns) stream = true) := by
  rw [gcReconcile, expired, gone]
  simp only [Bool.not_true, Bool.false_eq_true, if_false, gcDropNats]
  cases servers (gcNs snapshot) with
  | none => simp
  | some streams => exact mem_sweep_for streams _ _ _ _ name

theorem recovered_deletes_nothing (snapshot : RetainedClaim) (claims : List ResourceClaim) (now : Nat)
    (servers : String → Option (List StreamSummary)) (again : recovered snapshot claims = true) :
    (gcReconcile snapshot claims now servers).streams = [] := by
  rw [gcReconcile, again]
  cases shouldGc snapshot.retainUntil now with
  | true => rfl
  | false => rfl

theorem mem_protected (claims : List ResourceClaim) (ns name : String) : name ∈ protectedStreamNames claims ns ↔
      ∃ claim ∈ claims, claim.ns = ns ∧ ∃ js app, claim.spec.jetstream = some js ∧ declaringApp claim = some app ∧
        ∃ stream ∈ js.streams, natsStreamName app stream.name = name := by
  rw [protectedStreamNames, mem_sort_dedup, mem_flatMap]
  apply exists_congr
  intro claim
  by_cases here : claim.ns = ns
  · rw [if_neg (not_not.mpr here)]
    cases declared : claim.spec.jetstream with
    | none => simp
    | some js =>
      cases owner : declaringApp claim with
      | none => simp
      | some app => simp [here]
  · simp [here]

end AppRafter.Nats
