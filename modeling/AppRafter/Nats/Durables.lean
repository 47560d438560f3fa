import AppRafter.Nats.Denials

set_option autoImplicit false

namespace AppRafter.Nats

open Lib Application Webhook List Option

def consumerVerbs : List String :=
  ["CREATE", "DURABLE.CREATE", "INFO", "DELETE", "MSG.NEXT", "PAUSE", "RESET", "UNPIN", "LEADER.STEPDOWN"]

-- A create may carry the consumer's filter behind its name, token for token.
inductive Handles (stream durable : String) : List String → Prop
  | verb (verb : String) (listed : verb ∈ consumerVerbs) :
      Handles stream durable ("$JS" :: "API" :: "CONSUMER" :: tokens verb ++ [stream, durable])
  | filtered (first : String) (filter : List String) :
      Handles stream durable ("$JS" :: "API" :: "CONSUMER" :: "CREATE" :: stream :: durable :: first :: filter)
  | ack (first : String) (counters : List String) :
      Handles stream durable ("$JS" :: "ACK" :: stream :: durable :: first :: counters)
  | ackV2 (domain account first : String) (counters : List String) :
      Handles stream durable ("$JS" :: "ACK" :: domain :: account :: stream :: durable :: first :: counters)
  | flow (first : String) (counters : List String) :
      Handles stream durable ("$JS" :: "FC" :: stream :: durable :: first :: counters)
  | flowV2 (domain account first : String) (counters : List String) :
      Handles stream durable ("$JS" :: "FC" :: domain :: account :: stream :: durable :: first :: counters)

structure Usable (me : ClaimView) (claims : List ClaimView) (claim : ClaimView) (stream : StreamView) : Prop where
  member : claim ∈ claims
  declared : stream ∈ claim.streams
  usable : owns me claim = true ∨ consumes me claim stream = true

def On (consume : ConsumeView) (claim : ClaimView) (stream : StreamView) : Prop :=
  consume.owner = claim.app ∧ consume.stream = stream.name

def composed (claim : ClaimView) (stream : StreamView) : String := natsStreamName claim.app stream.name

def held (claim : ClaimView) (consume : ConsumeView) : String := natsDurableName claim.app consume.durable

def Keyed (claims : List ResourceClaim) : Prop :=
  ∀ first ∈ claims, ∀ second ∈ claims, first.ns = second.ns → first.name = second.name → first = second

theorem peers_apps {ns : String} {claims : List ResourceClaim} (admitted : ∀ claim ∈ claims, claim.Admitted)
    (keyed : Keyed claims) {first second : ClaimView} (firstPeer : first ∈ peers ns claims)
    (secondPeer : second ∈ peers ns claims) (same : first.app = second.app) : first = second := by
  obtain ⟨firstNs, firstClaim, firstListed, firstViewed⟩ := (mem_peers ns claims first).mp firstPeer
  obtain ⟨secondNs, secondClaim, secondListed, secondViewed⟩ := (mem_peers ns claims second).mp secondPeer
  have firstName := viewed_name (admitted _ firstListed) firstViewed
  have secondName := viewed_name (admitted _ secondListed) secondViewed
  have claims_same : firstClaim = secondClaim := by
    apply keyed firstClaim firstListed secondClaim secondListed
    · rw [firstName.1, secondName.1, firstNs, secondNs]
    · rw [firstName.2, secondName.2, same]
  rw [claims_same, secondViewed] at firstViewed
  exact (some.inj firstViewed).symm

section Apart

variable {ns : String} {claims : List ResourceClaim} (admitted : ∀ claim ∈ claims, claim.Admitted)

include admitted

variable {me claim : ClaimView} {stream : StreamView}

theorem foreign_ne_usable {owner : ClaimView} {own : StreamView}
    (foreign : Foreign me (peers ns claims) claim stream) (usable : Usable me (peers ns claims) owner own) :
    composed claim stream ≠ composed owner own := by
  intro same
  have names := peer_names ns _ admitted
  obtain ⟨apps, streams⟩ := composed_injective (names claim foreign.member).app (names owner usable.member).app same
  rcases usable.usable with owned | consumed
  · have unowned := foreign.unowned
    rw [owns, apps] at unowned
    rw [owns, unowned] at owned
    exact Bool.false_ne_true owned
  · have unconsumed := foreign.unconsumed
    rw [consumes, apps, streams] at unconsumed
    rw [consumes, unconsumed] at consumed
    exact Bool.false_ne_true consumed

theorem neighbour_ne_own {other : ClaimView} (consume own : ConsumeView) (mine : me ∈ peers ns claims)
    (neighbour : Neighbour me (peers ns claims) other consume) : held other consume ≠ held me own := by
  intro same
  have names := peer_names ns _ admitted
  exact neighbour.other (composed_injective (names other neighbour.member).app (names me mine).app same).1

theorem foreign_ne_own (own : ConsumeView) (mine : me ∈ peers ns claims)
    (foreign : Foreign me (peers ns claims) claim stream) : composed claim stream ≠ held me own := by
  intro same
  have names := peer_names ns _ admitted
  have apps := (composed_injective (names claim foreign.member).app (names me mine).app same).1
  have unowned := foreign.unowned
  rw [owns, apps, beq_self_eq_true] at unowned
  cases unowned

-- With a durable of its own application the webhook refuses the stream's name.
theorem durable_ne_stream (keyed : Keyed claims) {other : ClaimView} {consume : ConsumeView}
    (member : claim ∈ peers ns claims) (declared : stream ∈ claim.streams) (behind : other ∈ peers ns claims)
    (listed : consume ∈ other.consumes) : held other consume ≠ composed claim stream := by
  intro same
  have names := peer_names ns _ admitted
  obtain ⟨apps, texts⟩ := composed_injective (names other behind).app (names claim member).app same
  have views := peers_apps admitted keyed behind member apps
  rw [views] at listed
  exact (names claim member).apart consume listed stream declared texts

end Apart

theorem spell_plain (stream durable : String) (plain : Plain stream) : spell stream durable = [.lit stream, .lit durable] := by
  rw [spell, tokens_plain plain, map_singleton, read_token_plain plain]
  rfl

theorem consumer_verb_shape {verb : String} (listed : verb ∈ consumerVerbs) :
    (∃ first, tokens verb = [first]) ∨ ∃ first second, tokens verb = [first, second] := by
  fin_cases listed
  · exact .inl ⟨"CREATE", rfl⟩
  · exact .inr ⟨"DURABLE", "CREATE", rfl⟩
  · exact .inl ⟨"INFO", rfl⟩
  · exact .inl ⟨"DELETE", rfl⟩
  · exact .inr ⟨"MSG", "NEXT", rfl⟩
  · exact .inl ⟨"PAUSE", rfl⟩
  · exact .inl ⟨"RESET", rfl⟩
  · exact .inl ⟨"UNPIN", rfl⟩
  · exact .inr ⟨"LEADER", "STEPDOWN", rfl⟩

variable {stream durable : String}

theorem handles_guarded (plain : Plain stream) {parts : List String} (handles : Handles stream durable parts) :
    Guarded stream durable parts ∨
      ∃ first filter, parts = "$JS" :: "API" :: "CONSUMER" :: "CREATE" :: stream :: durable :: first :: filter := by
  have pair : Wild.accepts (spell stream durable) [stream, durable] = true := by
    simp [spell_plain _ durable plain]
  have more (first : String) (counters : List String) :
      Wild.accepts (spell stream durable ++ [.rest]) (stream :: durable :: first :: counters) = true := by
    simp [spell_plain _ durable plain]
  cases handles with
  | verb verb listed =>
    rcases consumer_verb_shape listed with ⟨first, read⟩ | ⟨first, second, read⟩
    · rw [read]
      exact .inl (.verb first [stream, durable] pair)
    · rw [read]
      exact .inl (.deep first second [stream, durable] pair)
  | filtered first filter => exact .inr ⟨first, filter, rfl⟩
  | ack first counters => exact .inl (.ack _ (more first counters))
  | ackV2 domain account first counters => exact .inl (.ackV2 domain account _ (more first counters))
  | flow first counters => exact .inl (.flow _ (more first counters))
  | flowV2 domain account first counters => exact .inl (.flowV2 domain account _ (more first counters))

def DurablesGuarded (me : ClaimView) (claims : List ClaimView) : Prop :=
  ∀ claim stream, Usable me claims claim stream → ∀ other consume, Neighbour me claims other consume →
    On consume claim stream → ∀ subject, Publishable me claims subject →
      ¬Handles (composed claim stream) (held other consume) (tokens subject)

def filteredCreate (stream durable : String) : String :=
  "$JS.API.CONSUMER.CREATE." ++ stream ++ "." ++ durable ++ "." ++ "filter.tail"

theorem filtered_create_tokens (plain : Plain stream) (named : Plain durable) : tokens (filteredCreate stream durable) =
      ["$JS", "API", "CONSUMER", "CREATE", stream, durable, "filter", "tail"] := by
  have opening : tokens "$JS.API.CONSUMER.CREATE" = ["$JS", "API", "CONSUMER", "CREATE"] := rfl
  have filter : tokens "filter.tail" = ["filter", "tail"] := rfl
  unfold filteredCreate
  rw [tokens_dot _ "filter.tail", filter, tokens_dot _ durable, tokens_plain named,
    tokens_open "$JS.API.CONSUMER.CREATE." "$JS.API.CONSUMER.CREATE" rfl stream, opening, tokens_plain plain]
  simp only [cons_append, nil_append]

theorem filtered_create_granted (me : ClaimView) (plain : Plain stream)
    (named : Plain durable) : Granted me (filteredCreate stream durable) := by
  apply standing_granted me "$JS.API.CONSUMER.CREATE.>" (by decide)
  rw [permits, filtered_create_tokens plain named]
  rfl

section Theorem

variable (ns : String) (claims : List ResourceClaim) (admitted : ∀ claim ∈ claims, claim.Admitted)
  (keyed : Keyed claims) (me : ClaimView)

include admitted keyed

theorem filtered_create_undenied {claim other : ClaimView} {stream : StreamView} {consume : ConsumeView}
    (usable : Usable me (peers ns claims) claim stream) (neighbour : Neighbour me (peers ns claims) other consume) :
    ¬Denied me (peers ns claims) (filteredCreate (composed claim stream) (held other consume)) := by
  have names := peer_names ns _ admitted
  have plain : Plain (composed claim stream) :=
    composed_plain (names claim usable.member).app ((names claim usable.member).labels stream usable.declared)
  have named : Plain (held other consume) := composed_plain (names other neighbour.member).app
      ((names other neighbour.member).durables consume neighbour.declared)
  rw [denied_iff me names, filtered_create_tokens plain named]
  rintro (⟨_, _, _, _, reserved⟩ | ⟨foreign, hidden, closed, positioned⟩ | ⟨third, entry, guard, guarded⟩)
  · simp [reservedMutations] at reserved
  · rcases positioned_api positioned with ⟨a, b, more, read⟩ | ⟨a, b, c, more, read⟩
    · have same : composed claim stream = composed foreign hidden := by
        simp only [List.cons.injEq] at read
        exact read.2.2.1
      exact foreign_ne_usable admitted closed usable same.symm
    · have same : held other consume = composed foreign hidden := by
        simp only [List.cons.injEq] at read
        exact read.2.2.2.1
      exact durable_ne_stream admitted keyed closed.member closed.declared neighbour.member neighbour.declared same
  · have scored : "tail" ≠ natsDurableName third.app entry.durable := by
      intro same
      have mark := composed_scored third.app entry.durable
      rw [show natsStreamName third.app entry.durable = "tail" from same.symm] at mark
      exact absurd mark (by decide)
    obtain ⟨verb, left, read, spelled⟩ := guarded_api guarded
    obtain ⟨_, _, rfl⟩ := read
    rcases spelled with whole | ⟨second, more, read, tail⟩
    · exact scored (some.inj (Wild.accepts_last _ _ _ whole))
    · obtain ⟨_, rfl⟩ := List.cons.inj read
      exact scored (some.inj (Wild.accepts_last _ _ _ tail))

theorem durables_guarded_iff : (DurablesGuarded me (peers ns claims) ↔
      ∀ claim stream other consume, Usable me (peers ns claims) claim stream →
        Neighbour me (peers ns claims) other consume → ¬On consume claim stream) ∧
    ∀ claim stream other consume subject, Usable me (peers ns claims) claim stream →
      Neighbour me (peers ns claims) other consume → On consume claim stream → Publishable me (peers ns claims) subject →
      Handles (composed claim stream) (held other consume) (tokens subject) →
      ∃ first filter, tokens subject =
        "$JS" :: "API" :: "CONSUMER" :: "CREATE" :: composed claim stream :: held other consume :: first :: filter := by
  have names := peer_names ns claims admitted
  have plain (claim : ClaimView) (stream : StreamView) (usable : Usable me (peers ns claims) claim stream) :
      Plain (composed claim stream) :=
    composed_plain (names claim usable.member).app ((names claim usable.member).labels stream usable.declared)
  refine ⟨⟨?_, ?_⟩, ?_⟩
  · intro guarded claim stream other consume usable neighbour on
    have named : Plain (held other consume) := composed_plain (names other neighbour.member).app
        ((names other neighbour.member).durables consume neighbour.declared)
    apply guarded claim stream usable other consume neighbour on (filteredCreate (composed claim stream) (held other consume))
    · exact ⟨filtered_create_granted me (plain claim stream usable) named,
        filtered_create_undenied ns claims admitted keyed me usable neighbour⟩
    · rw [filtered_create_tokens (plain claim stream usable) named]
      exact .filtered "filter" ["tail"]
  · intro unshared claim stream usable other consume neighbour on
    exact absurd on (unshared claim stream other consume usable neighbour)
  · intro claim stream other consume subject usable neighbour on published handles
    rcases handles_guarded (plain claim stream usable) handles with guarded | filtered
    · refine absurd ?_ published.2
      refine (denied_iff me names subject).mpr (.inr (.inr ⟨other, consume, neighbour, ?_⟩))
      rw [on.1, on.2]
      exact guarded
    · exact filtered

end Theorem

def idxNeed : JetStreamNeed := { consumeKey := some [{ owner := some "feeder", stream := "blocks", durable := "idx" }] }

theorem indexing_admitted : (jetstreamClaim "shop" "indexer" idxNeed).Admitted := jetstream_claim_admitted "shop" (by decide)

def sharingClaims : List ResourceClaim := [jetstreamClaim "shop" "feeder" blocksNeed, jetstreamClaim "shop" "indexer" idxNeed]

def blocksView : StreamView := ⟨"blocks", ["feeder.blocks.>"], false⟩

def idxView : ConsumeView := ⟨"feeder", "blocks", "idx"⟩

def indexingView : ClaimView := ⟨"shop", "indexer", false, [], [idxView]⟩

theorem sharing_admitted : ∀ claim ∈ sharingClaims, claim.Admitted := by
  intro claim member
  simp only [sharingClaims, mem_cons, not_mem_nil, or_false] at member
  rcases member with rfl | rfl
  · exact feeder_admitted
  · exact indexing_admitted

theorem sharing_keyed : Keyed sharingClaims := by
  unfold Keyed
  decide

theorem sharing_peers : peers "shop" sharingClaims = [feederView, indexingView] := by decide

-- The indexer has no neighbour's durable to reach.
theorem indexer_guarded : DurablesGuarded indexingView (peers "shop" sharingClaims) := by
  apply (durables_guarded_iff "shop" sharingClaims sharing_admitted sharing_keyed indexingView).1.mpr
  intro claim stream other consume usable neighbour on
  have member := neighbour.member
  rw [sharing_peers, mem_cons, mem_singleton] at member
  rcases member with rfl | rfl
  · exact absurd neighbour.declared not_mem_nil
  · exact neighbour.other rfl

-- The stream's owner creates the indexer's durable anew, with a filter.
theorem filtered_create_passes : (∀ claim ∈ sharingClaims, claim.Admitted) ∧ Keyed sharingClaims ∧
      ¬DurablesGuarded feederView (peers "shop" sharingClaims) := by
  refine ⟨sharing_admitted, sharing_keyed, ?_⟩
  rw [sharing_peers]
  intro guarded
  have usable : Usable feederView [feederView, indexingView] feederView blocksView := ⟨by decide, by decide, .inl (by decide)⟩
  have neighbour : Neighbour feederView [feederView, indexingView] indexingView idxView := ⟨by decide, by decide, by decide⟩
  apply guarded feederView blocksView usable indexingView idxView neighbour ⟨rfl, rfl⟩
    "$JS.API.CONSUMER.CREATE.feeder_blocks.indexer_idx.feeder.blocks"
  · refine ⟨standing_granted _ "$JS.API.CONSUMER.CREATE.>" (by decide) _ (by decide), ?_⟩
    simp only [Denied, denyVector, mem_sort_dedup]
    decide
  · exact .filtered "feeder" ["blocks"]

end AppRafter.Nats
