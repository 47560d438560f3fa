import AppRafter.Nats.Neighbours

set_option autoImplicit false

namespace AppRafter.Nats

open Lib Application Webhook List

section Leftovers

variable (quantityBytes : String → Option Int) (configNs : Option String) (claim : ResourceClaim)

def appliedStreams (app : String) (js : ResourceClaimJetStream) : List JetStreamStream :=
  (materialisedStreams app js).takeWhile (quantified quantityBytes)

theorem apply_declared {app : String} {js : ResourceClaimJetStream} (declared : claim.spec.jetstream = some js)
    (owner : declaringApp claim = some app) :
    (applyDeclared quantityBytes configNs claim).streams =
      (appliedStreams quantityBytes app js).map fun stream => ⟨natsStreamName app stream.name, stream.subjects⟩ := by
  simp only [applyDeclared, declared, owner, appliedStreams]

def Collects (claims : List ResourceClaim) (deletion now : Nat) : Prop :=
  shouldGc (snapshotRetainedClaim configNs claim deletion).retainUntil now = true ∧
    recovered (snapshotRetainedClaim configNs claim deletion) claims = false

def collection (claims : List ResourceClaim) (deletion now : Nat) (servers : String → Option (List StreamSummary)) : GcPass :=
  gcReconcile (snapshotRetainedClaim configNs claim deletion) claims now servers

-- It goes with the claim and its snapshot, and is out of other claims' reach until then.
structure Reclaimed : Prop where
  objects : ∀ object ∈ (applyDeclared quantityBytes configNs claim).objects, ∀ claims deletion now servers,
    Collects configNs claim claims deletion now →
      object ∈ deleteNatsDeclaredObjects configNs claim ++ (collection configNs claim claims deletion now servers).objects
  streams : ∀ stream ∈ (applyDeclared quantityBytes configNs claim).streams, ∀ claims deletion now servers,
    Collects configNs claim claims deletion now → stream ∈ (servers (provisionNs configNs)).getD [] →
      (collection configNs claim claims deletion now servers).server = provisionNs configNs ∧
        stream.name ∈ (collection configNs claim claims deletion now servers).streams
  sheltered : ∀ stream ∈ (applyDeclared quantityBytes configNs claim).streams, ∀ claims, claim ∈ claims →
    stream.name ∈ protectedStreamNames claims claim.ns

-- An earlier maxBytes does not parse, or the first queue's does not, or there is none.
def QueuesUnmade (app : String) (js : ResourceClaimJetStream) : Prop :=
  (∀ stream ∈ js.streams, quantified quantityBytes stream = true) →
    ∀ queue ∈ (deadLetterStreams app js).head?, quantified quantityBytes queue = false

def StreamsUnmade (app : String) (js : ResourceClaimJetStream) : Prop :=
  ∀ first ∈ (materialisedStreams app js).head?, quantified quantityBytes first = false

def ServerNamed : Prop := ∃ ns, configNs = some ns ∧ ns.toList ≠ []

end Leftovers

section Prefixes

variable {α : Type} (p : α → Bool)

theorem take_while_nil (list : List α) : list.takeWhile p = [] ↔ ∀ first ∈ list.head?, p first = false := by
  cases list with
  | nil => simp
  | cons first rest =>
    cases holds : p first with
    | true => simp [holds]
    | false => simp [holds]

theorem take_while_front (front back : List α) : (∀ entry ∈ (front ++ back).takeWhile p, entry ∈ front) ∨
      (∀ entry ∈ front, p entry = true) ∧ ∃ first ∈ back.head?, p first = true ∧ first ∈ (front ++ back).takeWhile p := by
  by_cases all : ∀ entry ∈ front, p entry = true
  · rw [takeWhile_append_of_pos all]
    cases back with
    | nil => simp
    | cons first rest =>
      cases holds : p first with
      | true =>
        right
        exact ⟨all, first, rfl, holds, by simp [holds]⟩
      | false =>
        simp [holds]
  · left
    have short : (front.takeWhile p).length ≠ front.length := by
      intro whole
      have same := ( takeWhile_prefix p).eq_of_length whole
      exact all (takeWhile_eq_self_iff.mp same)
    rw [takeWhile_append, if_neg short]
    exact fun entry member => ( takeWhile_prefix p).subset member

end Prefixes

section Theorem

variable (quantityBytes : String → Option Int) (configNs : Option String) (claim : ResourceClaim) (js : ResourceClaimJetStream)
    (app : String)

variable {stream : JetStreamStream} {claims : List ResourceClaim}

theorem applied_declared (unmade : QueuesUnmade quantityBytes app js)
    (applied : stream ∈ appliedStreams quantityBytes app js) : stream ∈ js.streams := by
  rcases take_while_front (quantified quantityBytes) js.streams (deadLetterStreams app js) with inside | ⟨all, queue, head, parses, _⟩
  · exact inside stream applied
  · rw [unmade all queue head] at parses
    cases parses

theorem collection_ns (named : ServerNamed configNs) (deletion : Nat) :
    gcNs (snapshotRetainedClaim configNs claim deletion) = provisionNs configNs := by
  obtain ⟨ns, rfl, text⟩ := named
  simp [gcNs, snapshotRetainedClaim, provisionNs, Option.filter, text]

-- An empty namespace reads as the default.
theorem collection_ns_other (unnamed : ¬ServerNamed configNs) (deletion : Nat) :
    gcNs (snapshotRetainedClaim configNs claim deletion) ≠ provisionNs configNs := by
  cases config : configNs with
  | none => simp [gcNs, snapshotRetainedClaim, provisionNs, Option.filter, defaultCnpgNamespace, defaultNatsSystemNamespace]
  | some ns =>
    have empty : ns.toList = [] := by
      by_contra text
      exact unnamed ⟨ns, config, text⟩
    have blank : ns = "" := String.toList_inj.mp empty
    simp [gcNs, snapshotRetainedClaim, provisionNs, Option.filter, blank, defaultNatsSystemNamespace]

variable (declared : claim.spec.jetstream = some js) (owner : declaringApp claim = some app)

include declared owner

theorem objects_deleted (unmade : QueuesUnmade quantityBytes app js) {object : NackObject}
    (applied : object ∈ (applyDeclared quantityBytes configNs claim).objects) :
    object ∈ deleteNatsDeclaredObjects configNs claim := by
  simp only [applyDeclared, declared, owner, List.mem_append, List.mem_map] at applied
  simp only [deleteNatsDeclaredObjects, declared, owner, List.mem_append, List.mem_map]
  rcases applied with ⟨stream, member, same⟩ | ⟨consume, member, same⟩
  · exact .inl ⟨stream, applied_declared _ js app unmade member, same⟩
  · refine .inr ⟨consume, ?_, same⟩
    split at member
    · exact member
    · cases member

theorem stream_collected (named : ServerNamed configNs) (member : stream ∈ js.streams) {deletion now : Nat} {servers : String → Option (List StreamSummary)}
    (collects : Collects configNs claim claims deletion now)
    (listed : ⟨natsStreamName app stream.name, stream.subjects⟩ ∈ (servers (provisionNs configNs)).getD []) :
    (collection configNs claim claims deletion now servers).server = provisionNs configNs ∧
      natsStreamName app stream.name ∈ (collection configNs claim claims deletion now servers).streams := by
  obtain ⟨expired, gone⟩ := collects
  have here := collection_ns _ claim named deletion
  constructor
  · rw [collection, gcReconcile, expired, gone]
    exact here
  · rw [collection, mem_reconcile_streams servers expired gone, here]
    refine ⟨_, listed, rfl, .inr ?_⟩
    have own : natsStreamName app stream.name ∈ gcDeclared (snapshotRetainedClaim configNs claim deletion) := by
      simp only [gcDeclared, gcApp, snapshotRetainedClaim, declared, owner, Option.map_some, Option.getD_some, List.mem_map]
      exact ⟨stream.name, ⟨stream, member, rfl⟩, rfl⟩
    simp [swept, own]

theorem stream_sheltered (member : stream ∈ js.streams)
    (lives : claim ∈ claims) : natsStreamName app stream.name ∈ protectedStreamNames claims claim.ns :=
  (mem_protected claims claim.ns _).mpr ⟨claim, lives, rfl, js, app, declared, owner, stream, member, rfl⟩

theorem reclaimed_of (unmade : QueuesUnmade quantityBytes app js)
    (reached : ServerNamed configNs ∨ StreamsUnmade quantityBytes app js) : Reclaimed quantityBytes configNs claim where
  objects := by
    intro object applied claims deletion now servers _
    exact mem_append_left _ (objects_deleted _ _ claim js app declared owner unmade applied)
  streams := by
    intro summary applied claims deletion now servers collects listed
    rw [apply_declared quantityBytes configNs claim declared owner] at applied
    obtain ⟨stream, member, rfl⟩ := mem_map.mp applied
    rcases reached with named | none
    · exact stream_collected _ claim js app declared owner named (applied_declared _ js app unmade member) collects listed
    · rw [appliedStreams, (take_while_nil _ _).mpr none] at member
      cases member
  sheltered := by
    intro summary applied claims lives
    rw [apply_declared quantityBytes configNs claim declared owner] at applied
    obtain ⟨stream, member, rfl⟩ := mem_map.mp applied
    exact stream_sheltered claim js app declared owner (applied_declared _ js app unmade member) lives

-- No declared stream has a dead-letter stream's name.
theorem queue_unsheltered (admitted : claim.Admitted) {queue : JetStreamStream} (member : queue ∈ deadLetterStreams app js) :
    natsStreamName app queue.name ∉ protectedStreamNames [claim] claim.ns := by
  intro sheltered
  obtain ⟨other, owned, _, label, names⟩ := admitted_claim admitted declared
  rw [owner] at owned
  cases owned
  obtain ⟨entry, listed, built⟩ := mem_filterMap.mp member
  obtain ⟨dlq, queued, rfl⟩ := Option.map_eq_some_iff.mp built
  obtain ⟨only, single, _, needed, named, sameNeed, sameApp, stream, own, composed⟩ := (mem_protected _ _ _).mp sheltered
  rw [mem_singleton.mp single, declared] at sameNeed
  rw [mem_singleton.mp single, owner] at sameApp
  cases sameNeed
  cases sameApp
  exact names.queuesApart entry listed dlq queued stream own (composed_injective label label composed).2

theorem unmade_of_reclaimed (admitted : claim.Admitted) (reclaimed : Reclaimed quantityBytes configNs claim) :
    QueuesUnmade quantityBytes app js := by
  intro all queue head
  rw [Bool.eq_false_iff]
  intro parses
  have member : queue ∈ deadLetterStreams app js := mem_of_mem_head? head
  obtain ⟨rest, queues⟩ := head?_eq_some_iff.mp head
  have applied : queue ∈ appliedStreams quantityBytes app js := by
    rw [appliedStreams, materialisedStreams, takeWhile_append_of_pos all, queues]
    simp [parses]
  refine queue_unsheltered claim js app declared owner admitted member ?_
  apply reclaimed.sheltered ⟨natsStreamName app queue.name, queue.subjects⟩ _ [claim] mem_cons_self
  rw [apply_declared quantityBytes configNs claim declared owner]
  exact mem_map.mpr ⟨queue, applied, rfl⟩

theorem reached_of_reclaimed (reclaimed : Reclaimed quantityBytes configNs claim) :
    ServerNamed configNs ∨ StreamsUnmade quantityBytes app js := by
  by_cases named : ServerNamed configNs
  · exact .inl named
  · right
    apply (take_while_nil _ _).mp
    by_contra made
    obtain ⟨first, rest, applied⟩ := exists_cons_of_ne_nil made
    have stands : ⟨natsStreamName app first.name, first.subjects⟩ ∈ (applyDeclared quantityBytes configNs claim).streams := by
      rw [apply_declared quantityBytes configNs claim declared owner, appliedStreams, applied]
      exact mem_cons_self
    have collects : Collects configNs claim [] 0 gracePeriod := ⟨by simp [shouldGc, snapshotRetainedClaim], rfl⟩
    have server := (reclaimed.streams _ stands [] 0 gracePeriod
      (fun _ => some [⟨natsStreamName app first.name, first.subjects⟩]) collects mem_cons_self).1
    exact collection_ns_other _ claim named 0 server

theorem reclaimed_iff (admitted : claim.Admitted) : Reclaimed quantityBytes configNs claim ↔
      QueuesUnmade quantityBytes app js ∧ (ServerNamed configNs ∨ StreamsUnmade quantityBytes app js) := by
  constructor
  · intro reclaimed
    exact ⟨unmade_of_reclaimed quantityBytes configNs claim js app declared owner admitted reclaimed,
      reached_of_reclaimed quantityBytes configNs claim js app declared owner reclaimed⟩
  · intro ⟨unmade, reached⟩
    exact reclaimed_of quantityBytes configNs claim js app declared owner unmade reached

end Theorem

def gibibyte (text : String) : Option Int := if text = "1Gi" then some 1073741824 else none

theorem feeder_reclaimed : Reclaimed gibibyte (some "nats-system") (jetstreamClaim "shop" "feeder" blocksNeed) := by
  apply (reclaimed_iff gibibyte (some "nats-system") (jetstreamClaim "shop" "feeder" blocksNeed) ⟨false, _, []⟩ "feeder" rfl rfl
    feeder_admitted).mpr
  refine ⟨?_, .inl ⟨"nats-system", rfl, by decide⟩⟩
  intro _ queue head
  cases head

def deadLetterNeed : JetStreamNeed :=
  { consumeKey := some
      [{ owner := some "feeder", stream := "blocks", durable := "idx", maxDeliver := some 5,
         deadLetter := some { stream := "idx-dead", maxBytes := "1Gi" } }] }

-- A dead-letter stream is made and never unmade.
theorem dead_letters_stay :
    (jetstreamClaim "shop" "indexer" deadLetterNeed).Admitted ∧
      ¬Reclaimed gibibyte (some "nats-system") (jetstreamClaim "shop" "indexer" deadLetterNeed) := by
  refine ⟨jetstream_claim_admitted "shop" (by decide), ?_⟩
  intro reclaimed
  have kept := reclaimed.objects ⟨.stream, "nats-system", "shop-indexer-idx-dead"⟩ (by decide) [] 0 gracePeriod (fun _ => none)
    (by unfold Collects; decide)
  exact absurd kept (by decide)

end AppRafter.Nats
