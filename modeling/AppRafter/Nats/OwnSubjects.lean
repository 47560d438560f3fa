import AppRafter.Nats.Durables

set_option autoImplicit false

namespace AppRafter.Nats

open Lib Application Webhook List

def streamVerbs : List String :=
  ["STREAM.CREATE", "STREAM.UPDATE", "STREAM.INFO", "STREAM.DELETE", "STREAM.PURGE", "STREAM.SNAPSHOT", "STREAM.RESTORE",
    "STREAM.MSG.GET", "STREAM.MSG.DELETE", "STREAM.LEADER.STEPDOWN", "STREAM.PEER.REMOVE", "DIRECT.GET",
    "CONSUMER.CREATE", "CONSUMER.NAMES", "CONSUMER.LIST"]

-- A count, a time, a hash, a random name, or the domain, `_` where none is configured.
def Unmarked (token : String) : Prop := token = "_" ∨ '_' ∉ token.toList

inductive Concerns (stream durable : String) : List String → Prop
  | verb (verb : String) (listed : verb ∈ streamVerbs) : Concerns stream durable ("$JS" :: "API" :: tokens verb ++ [stream])
  | direct (first : String) (last : List String) :
      Concerns stream durable ("$JS" :: "API" :: "DIRECT" :: "GET" :: stream :: first :: last)
  | consumer (verb : String) (listed : verb ∈ consumerVerbs) :
      Concerns stream durable ("$JS" :: "API" :: "CONSUMER" :: tokens verb ++ [stream, durable])
  | filtered (first : String) (filter : List String) :
      Concerns stream durable ("$JS" :: "API" :: "CONSUMER" :: "CREATE" :: stream :: durable :: first :: filter)
  | ack (counters : List String) (written : ∀ counter ∈ counters, Unmarked counter) :
      Concerns stream durable ("$JS" :: "ACK" :: stream :: durable :: counters)
  | ackV2 (domain account : String) (located : Unmarked domain ∧ Unmarked account) (counters : List String)
      (written : ∀ counter ∈ counters, Unmarked counter) :
      Concerns stream durable ("$JS" :: "ACK" :: domain :: account :: stream :: durable :: counters)
  | flow (counters : List String) (written : ∀ counter ∈ counters, Unmarked counter) :
      Concerns stream durable ("$JS" :: "FC" :: stream :: durable :: counters)
  | flowV2 (domain account : String) (located : Unmarked domain ∧ Unmarked account) (counters : List String)
      (written : ∀ counter ∈ counters, Unmarked counter) :
      Concerns stream durable ("$JS" :: "FC" :: domain :: account :: stream :: durable :: counters)

-- The mutations kept for the platform apart.
def OwnSubjectsOpen (me : ClaimView) (claims : List ClaimView) : Prop :=
  ∀ claim stream, Usable me claims claim stream → ∀ own ∈ me.consumes, On own claim stream →
    ∀ subject, Concerns (composed claim stream) (held me own) (tokens subject) → Granted me subject →
      tokens subject ∉ reservedMutations (composed claim stream) → ¬Denied me claims subject

-- A subject that begins with a closed stream, or a filter that spells a neighbour's consumer.
inductive Crossed (me : ClaimView) (claims : List ClaimView) (stream durable : String) : List String → Prop
  | direct (claim : ClaimView) (closed : StreamView) (foreign : Foreign me claims claim closed) (last : List String) :
      Crossed me claims stream durable ("$JS" :: "API" :: "DIRECT" :: "GET" :: stream :: composed claim closed :: last)
  | filtered (claim : ClaimView) (consume : ConsumeView) (neighbour : Neighbour me claims claim consume)
      (filter : List String)
      (spelled : Wild.accepts (spell (natsStreamName consume.owner consume.stream) (held claim consume))
          (stream :: durable :: filter) = true ∨
        Wild.accepts (spell (natsStreamName consume.owner consume.stream) (held claim consume))
          (durable :: filter) = true) :
      Crossed me claims stream durable ("$JS" :: "API" :: "CONSUMER" :: "CREATE" :: stream :: durable :: filter)

variable {stream durable : String} {parts : List String}

theorem positioned_mem (positioned : Positioned stream parts) : stream ∈ parts := by
  cases positioned <;> simp

theorem guarded_mem (guarded : Guarded stream durable parts) : durable ∈ parts := by
  have pair (left : List String) (spelled : Wild.accepts (spell stream durable) left = true) : durable ∈ left :=
    Wild.accepts_mem left spelled durable (mem_append_right _ mem_cons_self)
  have more (left : List String) (spelled : Wild.accepts (spell stream durable ++ [.rest]) left = true) : durable ∈ left :=
    Wild.accepts_mem left spelled durable (mem_append_left _ (mem_append_right _ mem_cons_self))
  cases guarded with
  | verb verb left spelled | deep first second left spelled => simp [pair left spelled]
  | ack left spelled | ackV2 a b left spelled | flow left spelled | flowV2 a b left spelled => simp [more left spelled]

theorem composed_marked (app declared : String) (label : isDns1123Label app = true) :
    ¬Unmarked (natsStreamName app declared) := by
  rintro (bare | unscored)
  · have chars := congrArg String.toList bare
    rw [composed_chars] at chars
    cases letters : app.toList with
    | nil => exact (label_text label).1 letters
    | cons first rest =>
      rw [letters] at chars
      have lengths := congrArg List.length chars
      simp at lengths
  · exact unscored (composed_scored app declared)

theorem reserved_shape (reserved : parts ∈ reservedMutations stream) :
    (∃ left, parts = "$JS" :: "API" :: "STREAM" :: left) ∧ parts.getLast? = some stream := by
  simp only [reservedMutations, mem_cons, not_mem_nil, or_false] at reserved
  rcases reserved with rfl | rfl | rfl | rfl
  · exact ⟨⟨_, rfl⟩, rfl⟩
  · exact ⟨⟨_, rfl⟩, rfl⟩
  · exact ⟨⟨_, rfl⟩, rfl⟩
  · exact ⟨⟨_, rfl⟩, rfl⟩

def Ordinary (stream durable part : String) : Prop := part = stream ∨ part = durable ∨ Unmarked part

theorem ordinary_word (stream durable : String) {part : String} (unscored : '_' ∉ part.toList) : Ordinary stream durable part :=
  .inr (.inr (.inr unscored))

theorem ordinary_pair (stream durable : String) {counters : List String} (written : ∀ counter ∈ counters, Unmarked counter) :
    ∀ part ∈ stream :: durable :: counters, Ordinary stream durable part := by
  simp only [forall_mem_cons]
  exact ⟨.inl rfl, .inr (.inl rfl), fun counter member => .inr (.inr (written counter member))⟩

theorem verb_words : ∀ verb ∈ streamVerbs ++ consumerVerbs, ∀ part ∈ tokens verb, '_' ∉ part.toList := by decide

theorem concerns_cases (concerns : Concerns stream durable parts) : (∀ part ∈ parts, Ordinary stream durable part) ∨
      (∃ first last, parts = "$JS" :: "API" :: "DIRECT" :: "GET" :: stream :: first :: last) ∨
      ∃ first filter, parts = "$JS" :: "API" :: "CONSUMER" :: "CREATE" :: stream :: durable :: first :: filter := by
  have root : Ordinary stream durable "$JS" := ordinary_word _ _ (by decide)
  have api : Ordinary stream durable "API" := ordinary_word _ _ (by decide)
  have consumer : Ordinary stream durable "CONSUMER" := ordinary_word _ _ (by decide)
  have ack : Ordinary stream durable "ACK" := ordinary_word _ _ (by decide)
  have flow : Ordinary stream durable "FC" := ordinary_word _ _ (by decide)
  cases concerns with
  | verb verb listed =>
    left
    simp only [cons_append, forall_mem_cons, forall_mem_append]
    have words := verb_words verb (mem_append_left _ listed)
    exact ⟨root, api, fun part member => ordinary_word _ _ (words part member), .inl rfl,
      nofun⟩
  | direct first last => exact .inr (.inl ⟨first, last, rfl⟩)
  | consumer verb listed =>
    left
    simp only [cons_append, forall_mem_cons, forall_mem_append]
    have words := verb_words verb (mem_append_right _ listed)
    exact ⟨root, api, consumer, fun part member => ordinary_word _ _ (words part member), .inl rfl, .inr (.inl rfl),
      nofun⟩
  | filtered first filter => exact .inr (.inr ⟨first, filter, rfl⟩)
  | ack counters written =>
    left
    have pair := ordinary_pair stream durable written
    exact forall_mem_cons.mpr ⟨root, forall_mem_cons.mpr ⟨ack, pair⟩⟩
  | ackV2 domain account located counters written =>
    left
    have pair := ordinary_pair stream durable written
    rw [forall_mem_cons, forall_mem_cons, forall_mem_cons, forall_mem_cons]
    exact ⟨root, ack, .inr (.inr located.1), .inr (.inr located.2), pair⟩
  | flow counters written =>
    left
    have pair := ordinary_pair stream durable written
    exact forall_mem_cons.mpr ⟨root, forall_mem_cons.mpr ⟨flow, pair⟩⟩
  | flowV2 domain account located counters written =>
    left
    have pair := ordinary_pair stream durable written
    rw [forall_mem_cons, forall_mem_cons, forall_mem_cons, forall_mem_cons]
    exact ⟨root, flow, .inr (.inr located.1), .inr (.inr located.2), pair⟩

theorem reserved_own {other : String} (concerns : Concerns stream durable parts)
    (reserved : parts ∈ reservedMutations other) : other = stream := by
  obtain ⟨⟨left, shape⟩, last⟩ := reserved_shape reserved
  cases concerns with
  | verb verb listed =>
    rw [getLast?_concat] at last
    exact (Option.some.inj last).symm
  | direct first final => simp at shape
  | consumer verb listed => simp at shape
  | filtered first filter => simp at shape
  | ack counters written => simp at shape
  | ackV2 domain account located counters written => simp at shape
  | flow counters written => simp at shape
  | flowV2 domain account located counters written => simp at shape

section Theorem

variable (ns : String) (claims : List ResourceClaim) (admitted : ∀ claim ∈ claims, claim.Admitted)
  (keyed : Keyed claims) (me : ClaimView) (mine : me ∈ peers ns claims) (claim : ClaimView) (stream : StreamView)
  (usable : Usable me (peers ns claims) claim stream) (own : ConsumeView)

include admitted mine usable

variable {parts : List String}

theorem foreign_absent {closed : ClaimView} {hidden : StreamView} (foreign : Foreign me (peers ns claims) closed hidden)
    (ordinary : ∀ part ∈ parts, Ordinary (composed claim stream) (held me own) part) :
    composed closed hidden ∉ parts := by
  intro member
  rcases ordinary _ member with same | same | unmarked
  · exact foreign_ne_usable admitted foreign usable same
  · exact foreign_ne_own admitted own mine foreign same
  · exact composed_marked _ _ (peer_names ns _ admitted _ foreign.member).app unmarked

include keyed

theorem neighbour_absent {other : ClaimView} {consume : ConsumeView} (neighbour : Neighbour me (peers ns claims) other consume)
    (ordinary : ∀ part ∈ parts, Ordinary (composed claim stream) (held me own) part) :
    held other consume ∉ parts := by
  intro member
  rcases ordinary _ member with same | same | unmarked
  · exact durable_ne_stream admitted keyed usable.member usable.declared neighbour.member neighbour.declared same
  · exact neighbour_ne_own admitted _ own mine neighbour same
  · exact composed_marked _ _ (peer_names ns _ admitted other neighbour.member).app unmarked

theorem own_subjects_undenied_iff (subject : String) (concerns : Concerns (composed claim stream) (held me own) (tokens subject))
    (unreserved : tokens subject ∉ reservedMutations (composed claim stream)) :
    ¬Denied me (peers ns claims) subject ↔
      ¬Crossed me (peers ns claims) (composed claim stream) (held me own) (tokens subject) := by
  rw [not_iff_not, denied_iff me (peer_names ns claims admitted)]
  generalize tokens subject = parts at concerns unreserved
  constructor
  · rintro (⟨other, _, stream, _, reserved⟩ | ⟨closed, hidden, foreign, positioned⟩ | ⟨other, consume, neighbour, guarded⟩)
    · rw [reserved_own concerns reserved] at reserved
      exact absurd reserved unreserved
    · rcases concerns_cases concerns with ordinary | ⟨first, last, rfl⟩ | ⟨first, filter, rfl⟩
      · exact absurd (positioned_mem positioned)
          (foreign_absent ns claims admitted me mine claim stream usable own foreign ordinary)
      · rcases positioned_api positioned with ⟨a, b, more, read⟩ | ⟨a, b, c, more, read⟩
        · simp only [List.cons.injEq] at read
          exact absurd read.2.2.1.symm (foreign_ne_usable admitted foreign usable)
        · simp only [List.cons.injEq] at read
          rw [read.2.2.2.1]
          exact .direct closed hidden foreign last
      · rcases positioned_api positioned with ⟨a, b, more, read⟩ | ⟨a, b, c, more, read⟩
        · simp only [List.cons.injEq] at read
          exact absurd read.2.2.1.symm (foreign_ne_usable admitted foreign usable)
        · simp only [List.cons.injEq] at read
          exact absurd read.2.2.2.1.symm (foreign_ne_own admitted own mine foreign)
    · rcases concerns_cases concerns with ordinary | ⟨first, last, rfl⟩ | ⟨first, filter, rfl⟩
      · exact absurd (guarded_mem guarded)
          (neighbour_absent ns claims admitted keyed me mine claim stream usable own neighbour ordinary)
      · obtain ⟨verb, left, read, _⟩ := guarded_api guarded
        simp at read
      · obtain ⟨verb, left, read, spelled⟩ := guarded_api guarded
        simp only [List.cons.injEq] at read
        obtain ⟨_, _, rfl⟩ := read
        apply Crossed.filtered other consume neighbour (first :: filter)
        rcases spelled with whole | ⟨second, more, read, tail⟩
        · exact .inl whole
        · obtain ⟨_, rfl⟩ := List.cons.inj read
          exact .inr tail
  · intro crossed
    cases crossed with
    | direct closed hidden foreign last =>
      exact .inr (.inl ⟨closed, hidden, foreign, .sixth "DIRECT" "GET" (composed claim stream) last⟩)
    | filtered other consume neighbour filter spelled =>
      refine .inr (.inr ⟨other, consume, neighbour, ?_⟩)
      rcases spelled with whole | tail
      · exact .verb "CREATE" _ whole
      · exact .deep "CREATE" (composed claim stream) _ tail

end Theorem

theorem indexer_fetches :
    ¬Denied indexingView (peers "shop" sharingClaims) "$JS.API.CONSUMER.MSG.NEXT.feeder_blocks.indexer_idx" ∧
      ¬Crossed indexingView (peers "shop" sharingClaims) "feeder_blocks" "indexer_idx"
        (tokens "$JS.API.CONSUMER.MSG.NEXT.feeder_blocks.indexer_idx") := by
  have usable : Usable indexingView (peers "shop" sharingClaims) feederView blocksView := by
    rw [sharing_peers]
    exact ⟨by decide, by decide, .inr (by decide)⟩
  have mine : indexingView ∈ peers "shop" sharingClaims := by
    rw [sharing_peers]
    decide
  have concerns : Concerns (composed feederView blocksView) (held indexingView idxView)
      (tokens "$JS.API.CONSUMER.MSG.NEXT.feeder_blocks.indexer_idx") := .consumer "MSG.NEXT" (by decide)
  have undenied : ¬Denied indexingView (peers "shop" sharingClaims)
      "$JS.API.CONSUMER.MSG.NEXT.feeder_blocks.indexer_idx" := by
    rw [sharing_peers]
    simp only [Denied, denyVector, mem_sort_dedup]
    decide
  exact ⟨undenied, (own_subjects_undenied_iff "shop" sharingClaims sharing_admitted sharing_keyed indexingView
    mine feederView blocksView usable idxView _ concerns (by decide)).mp undenied⟩

def eventsNeed : JetStreamNeed :=
  { streamsKey := some [{ name := "events", subjects := ["billing.events.>"], maxBytes := "1Gi" }] }

-- The other application's stream is named as one of the subjects collected.
def fanInNeed : JetStreamNeed :=
  { streamsKey := some [{ name := "blocks", subjects := ["feeder.blocks.>", "billing_events"], maxBytes := "1Gi" }] }

def crowdedClaims : List ResourceClaim :=
  [jetstreamClaim "shop" "feeder" fanInNeed, jetstreamClaim "shop" "indexer" idxNeed,
    jetstreamClaim "shop" "billing" eventsNeed]

def fanInView : StreamView := ⟨"blocks", ["feeder.blocks.>", "billing_events"], false⟩

def fanInFeederView : ClaimView := ⟨"shop", "feeder", false, [fanInView], []⟩

def crowdedView : ClaimView := ⟨"shop", "billing", false, [⟨"events", ["billing.events.>"], false⟩], []⟩

-- The indexer asks its stream for the last message on a subject it collects.
theorem direct_get_crossed : (∀ claim ∈ crowdedClaims, claim.Admitted) ∧ Keyed crowdedClaims ∧
      ¬OwnSubjectsOpen indexingView (peers "shop" crowdedClaims) := by
  refine ⟨?_, ?_, ?_⟩
  · intro claim member
    simp only [crowdedClaims, mem_cons, not_mem_nil, or_false] at member
    rcases member with rfl | rfl | rfl
    · exact jetstream_claim_admitted "shop" (by decide)
    · exact indexing_admitted
    · exact jetstream_claim_admitted "shop" (by decide)
  · unfold Keyed
    decide
  · have peered : peers "shop" crowdedClaims = [crowdedView, fanInFeederView, indexingView] := by decide
    rw [peered]
    intro free
    have usable : Usable indexingView [crowdedView, fanInFeederView, indexingView] fanInFeederView fanInView :=
      ⟨by decide, by decide, .inr (by decide)⟩
    apply free fanInFeederView fanInView usable idxView (by decide) ⟨rfl, rfl⟩ "$JS.API.DIRECT.GET.feeder_blocks.billing_events"
    · exact .direct "billing_events" []
    · exact standing_granted _ "$JS.API.DIRECT.GET.>" (by decide) _ (by decide)
    · decide
    · simp only [Denied, denyVector, mem_sort_dedup]
      decide

end AppRafter.Nats
