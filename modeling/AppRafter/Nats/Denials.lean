import AppRafter.Nats.Patterns
import Mathlib.Tactic.FinCases

set_option autoImplicit false

namespace AppRafter.Nats

open Lib Application Webhook List

theorem read_api : (tokens "$JS.API.*.*").map readToken = [.lit "$JS", .lit "API", .one, .one] := rfl

theorem read_api_deep : (tokens "$JS.API.*.*.*").map readToken = [.lit "$JS", .lit "API", .one, .one, .one] := rfl

theorem read_ack : (tokens "$JS.ACK").map readToken = [.lit "$JS", .lit "ACK"] := rfl

theorem read_ack_v2 : (tokens "$JS.ACK.*.*").map readToken = [.lit "$JS", .lit "ACK", .one, .one] := rfl

theorem read_flow : (tokens "$JS.FC").map readToken = [.lit "$JS", .lit "FC"] := rfl

theorem read_flow_v2 : (tokens "$JS.FC.*.*").map readToken = [.lit "$JS", .lit "FC", .one, .one] := rfl

theorem read_consumer : (tokens "$JS.API.CONSUMER.*").map readToken = [.lit "$JS", .lit "API", .lit "CONSUMER", .one] := rfl

theorem read_consumer_deep :
    (tokens "$JS.API.CONSUMER.*.*").map readToken = [.lit "$JS", .lit "API", .lit "CONSUMER", .one, .one] := rfl

section Total

variable (stream : String) (plain : Plain stream)

-- What the total denial of a stream covers, as tokens.
inductive Positioned : List String → Prop
  | fifth (a b : String) (more : List String) : Positioned ("$JS" :: "API" :: a :: b :: stream :: more)
  | sixth (a b c : String) (more : List String) : Positioned ("$JS" :: "API" :: a :: b :: c :: stream :: more)
  | ack (next : String) (more : List String) : Positioned ("$JS" :: "ACK" :: stream :: next :: more)
  | ackV2 (a b next : String) (more : List String) : Positioned ("$JS" :: "ACK" :: a :: b :: stream :: next :: more)
  | flow (next : String) (more : List String) : Positioned ("$JS" :: "FC" :: stream :: next :: more)
  | flowV2 (a b next : String) (more : List String) : Positioned ("$JS" :: "FC" :: a :: b :: stream :: next :: more)

include plain

theorem total_denies (subject : String) :
    (∃ pattern ∈ totalDenialPatterns stream, permits pattern subject = true) ↔ Positioned stream (tokens subject) := by
  have api := permits_stream "$JS.API.*.*." "$JS.API.*.*" rfl plain subject
  have apiRest := permits_stream_rest "$JS.API.*.*." "$JS.API.*.*" rfl plain subject
  have deep := permits_stream "$JS.API.*.*.*." "$JS.API.*.*.*" rfl plain subject
  have deepRest := permits_stream_rest "$JS.API.*.*.*." "$JS.API.*.*.*" rfl plain subject
  have ack := permits_stream_rest "$JS.ACK." "$JS.ACK" rfl plain subject
  have ackV2 := permits_stream_rest "$JS.ACK.*.*." "$JS.ACK.*.*" rfl plain subject
  have flow := permits_stream_rest "$JS.FC." "$JS.FC" rfl plain subject
  have flowV2 := permits_stream_rest "$JS.FC.*.*." "$JS.FC.*.*" rfl plain subject
  rw [read_api] at api apiRest
  rw [read_api_deep] at deep deepRest
  rw [read_ack] at ack
  rw [read_ack_v2] at ackV2
  rw [read_flow] at flow
  rw [read_flow_v2] at flowV2
  simp only [totalDenialPatterns, ackFcPatterns, cons_append, nil_append, mem_cons, not_mem_nil,
    or_false, exists_eq_or_imp, exists_eq_left, api, apiRest, deep, deepRest, ack, ackV2, flow, flowV2]
  simp only [Wild.accepts_lit, Wild.accepts_one, Wild.accepts_rest, Wild.accepts_end]
  constructor
  · rintro (⟨_, read, _, rfl, a, _, rfl, b, _, rfl, _, rfl, rfl⟩ |
      ⟨_, read, _, rfl, a, _, rfl, b, _, rfl, _, rfl, next, more, rfl⟩ |
      ⟨_, read, _, rfl, a, _, rfl, b, _, rfl, c, _, rfl, _, rfl, rfl⟩ |
      ⟨_, read, _, rfl, a, _, rfl, b, _, rfl, c, _, rfl, _, rfl, next, more, rfl⟩ |
      ⟨_, read, _, rfl, _, rfl, next, more, rfl⟩ | ⟨_, read, _, rfl, a, _, rfl, b, _, rfl, _, rfl, next, more, rfl⟩ |
      ⟨_, read, _, rfl, _, rfl, next, more, rfl⟩ | ⟨_, read, _, rfl, a, _, rfl, b, _, rfl, _, rfl, next, more, rfl⟩) <;>
      rw [read]
    · exact .fifth a b []
    · exact .fifth a b (next :: more)
    · exact .sixth a b c []
    · exact .sixth a b c (next :: more)
    · exact .ack next more
    · exact .ackV2 a b next more
    · exact .flow next more
    · exact .flowV2 a b next more
  · generalize tokens subject = read
    intro positioned
    cases positioned with
    | fifth a b more | sixth a b c more => cases more <;> simp
    | ack next more => simp
    | ackV2 a b next more => simp
    | flow next more => simp
    | flowV2 a b next more => simp

end Total

section Mutation

variable (stream : String) (plain : Plain stream)

-- The stream mutations kept for the platform.
def reservedMutations : List (List String) :=
  [["$JS", "API", "STREAM", "CREATE", stream], ["$JS", "API", "STREAM", "UPDATE", stream],
    ["$JS", "API", "STREAM", "DELETE", stream], ["$JS", "API", "STREAM", "MSG", "DELETE", stream]]

include plain

theorem mutation_denies (subject : String) :
    (∃ pattern ∈ mutationPatterns stream, permits pattern subject = true) ↔ tokens subject ∈ reservedMutations stream := by
  have exact (opening front : String) (path : List String) (ends : opening = front ++ ".")
      (read : (tokens front).map readToken = path.map .lit) :
      permits (opening ++ stream) subject = true ↔ tokens subject = path ++ [stream] := by
    rw [permits_stream _ front ends plain, read]
    simpa using Wild.accepts_lits (path ++ [stream]) (tokens subject)
  have create := exact "$JS.API.STREAM.CREATE." "$JS.API.STREAM.CREATE" ["$JS", "API", "STREAM", "CREATE"] rfl rfl
  have update := exact "$JS.API.STREAM.UPDATE." "$JS.API.STREAM.UPDATE" ["$JS", "API", "STREAM", "UPDATE"] rfl rfl
  have delete := exact "$JS.API.STREAM.DELETE." "$JS.API.STREAM.DELETE" ["$JS", "API", "STREAM", "DELETE"] rfl rfl
  have deleteMsg := exact "$JS.API.STREAM.MSG.DELETE." "$JS.API.STREAM.MSG.DELETE"
    ["$JS", "API", "STREAM", "MSG", "DELETE"] rfl rfl
  simp [mutationPatterns, reservedMutations, create, update, delete, deleteMsg]

end Mutation

section Guarded

variable (stream durable : String)

-- What the consumer calls its stream need not be one token.
def spell : List (Wild String) := (tokens stream).map readToken ++ [.lit durable]

-- What the denial of a declared consumer covers, as tokens.
inductive Guarded : List String → Prop
  | verb (verb : String) (left : List String) (spelled : Wild.accepts (spell stream durable) left = true) :
      Guarded ("$JS" :: "API" :: "CONSUMER" :: verb :: left)
  | deep (first second : String) (left : List String) (spelled : Wild.accepts (spell stream durable) left = true) :
      Guarded ("$JS" :: "API" :: "CONSUMER" :: first :: second :: left)
  | ack (left : List String) (spelled : Wild.accepts (spell stream durable ++ [.rest]) left = true) :
      Guarded ("$JS" :: "ACK" :: left)
  | ackV2 (a b : String) (left : List String) (spelled : Wild.accepts (spell stream durable ++ [.rest]) left = true) :
      Guarded ("$JS" :: "ACK" :: a :: b :: left)
  | flow (left : List String) (spelled : Wild.accepts (spell stream durable ++ [.rest]) left = true) :
      Guarded ("$JS" :: "FC" :: left)
  | flowV2 (a b : String) (left : List String) (spelled : Wild.accepts (spell stream durable ++ [.rest]) left = true) :
      Guarded ("$JS" :: "FC" :: a :: b :: left)

variable (plain : Plain durable)

include plain

variable (opening front : String)

theorem permits_pair (ends : opening = front ++ ".") (subject : String) : permits (opening ++ stream ++ "." ++ durable) subject =
      Wild.accepts ((tokens front).map readToken ++ spell stream durable) (tokens subject) := by
  rw [permits, tokens_dot, tokens_open _ front ends, tokens_plain plain, read_pattern_plain _ plain,
    map_append, append_assoc]
  rfl

theorem permits_pair_rest (ends : opening = front ++ ".") (subject : String) :
    permits (opening ++ (stream ++ "." ++ durable) ++ ".>") subject =
      Wild.accepts ((tokens front).map readToken ++ (spell stream durable ++ [.rest])) (tokens subject) := by
  rw [permits, tokens_close, tokens_open _ front ends, tokens_dot, tokens_plain plain, read_pattern_rest,
    map_append, map_append, map_singleton, read_token_plain plain, append_assoc]
  rfl

theorem consumer_denies (subject : String) : (∃ pattern ∈ consumerPatterns stream durable, permits pattern subject = true) ↔
      Guarded stream durable (tokens subject) := by
  have verb := permits_pair stream _ plain "$JS.API.CONSUMER.*." "$JS.API.CONSUMER.*" rfl subject
  have deep := permits_pair stream _ plain "$JS.API.CONSUMER.*.*." "$JS.API.CONSUMER.*.*" rfl subject
  have ack := permits_pair_rest stream _ plain "$JS.ACK." "$JS.ACK" rfl subject
  have ackV2 := permits_pair_rest stream _ plain "$JS.ACK.*.*." "$JS.ACK.*.*" rfl subject
  have flow := permits_pair_rest stream _ plain "$JS.FC." "$JS.FC" rfl subject
  have flowV2 := permits_pair_rest stream _ plain "$JS.FC.*.*." "$JS.FC.*.*" rfl subject
  rw [read_consumer] at verb
  rw [read_consumer_deep] at deep
  rw [read_ack] at ack
  rw [read_ack_v2] at ackV2
  rw [read_flow] at flow
  rw [read_flow_v2] at flowV2
  simp only [consumerPatterns, ackFcPatterns, cons_append, nil_append, mem_cons, not_mem_nil,
    or_false, exists_eq_or_imp, exists_eq_left, verb, deep, ack, ackV2, flow, flowV2]
  simp only [Wild.accepts_lit, Wild.accepts_one]
  constructor
  · rintro (⟨_, read, _, rfl, _, rfl, first, left, rfl, spelled⟩ |
      ⟨_, read, _, rfl, _, rfl, first, _, rfl, second, left, rfl, spelled⟩ | ⟨_, read, left, rfl, spelled⟩ |
      ⟨_, read, _, rfl, a, _, rfl, b, left, rfl, spelled⟩ | ⟨_, read, left, rfl, spelled⟩ |
      ⟨_, read, _, rfl, a, _, rfl, b, left, rfl, spelled⟩) <;>
      rw [read]
    · exact .verb first left spelled
    · exact .deep first second left spelled
    · exact .ack left spelled
    · exact .ackV2 a b left spelled
    · exact .flow left spelled
    · exact .flowV2 a b left spelled
  · generalize tokens subject = read
    intro guarded
    cases guarded with
    | verb first left spelled => simp [spelled]
    | deep first second left spelled => simp [spelled]
    | ack left spelled => simp [spelled]
    | ackV2 a b left spelled => simp [spelled]
    | flow left spelled => simp [spelled]
    | flowV2 a b left spelled => simp [spelled]

end Guarded

variable {stream : String} {parts : List String}

-- Under the API's root only the API patterns apply.
theorem positioned_api (positioned : Positioned stream ("$JS" :: "API" :: parts)) :
    (∃ a b more, parts = a :: b :: stream :: more) ∨ ∃ a b c more, parts = a :: b :: c :: stream :: more := by
  generalize read : "$JS" :: "API" :: parts = whole at positioned
  have root (kind : String) (left : List String) (same : "$JS" :: "API" :: parts = "$JS" :: kind :: left) :
      "API" = kind ∧ parts = left := List.cons.inj (List.cons.inj same).2
  cases positioned with
  | fifth a b more => exact .inl ⟨a, b, more, (root _ _ read).2⟩
  | sixth a b c more => exact .inr ⟨a, b, c, more, (root _ _ read).2⟩
  | ack | ackV2 | flow | flowV2 => exact absurd (root _ _ read).1 (by decide)

theorem guarded_api {durable : String} (guarded : Guarded stream durable ("$JS" :: "API" :: parts)) :
    ∃ verb left, parts = "CONSUMER" :: verb :: left ∧ (Wild.accepts (spell stream durable) left = true ∨
      ∃ second more, left = second :: more ∧ Wild.accepts (spell stream durable) more = true) := by
  generalize read : "$JS" :: "API" :: parts = whole at guarded
  have root (kind : String) (left : List String) (same : "$JS" :: "API" :: parts = "$JS" :: kind :: left) :
      "API" = kind ∧ parts = left := List.cons.inj (List.cons.inj same).2
  cases guarded with
  | verb verb left spelled => exact ⟨verb, left, (root _ _ read).2, .inl spelled⟩
  | deep first second left spelled => exact ⟨first, second :: left, (root _ _ read).2, .inr ⟨second, left, rfl, spelled⟩⟩
  | ack | ackV2 | flow | flowV2 => exact absurd (root _ _ read).1 (by decide)

section Vector

variable (me : ClaimView) (claims : List ClaimView) (names : ∀ claim ∈ claims, NamesAdmitted claim)

structure Foreign (claim : ClaimView) (stream : StreamView) : Prop where
  member : claim ∈ claims
  declared : stream ∈ claim.streams
  unowned : owns me claim = false
  unconsumed : consumes me claim stream = false

structure Neighbour (claim : ClaimView) (consume : ConsumeView) : Prop where
  member : claim ∈ claims
  declared : consume ∈ claim.consumes
  other : claim.app ≠ me.app

theorem mem_deny_vector (pattern : String) : pattern ∈ denyVector me claims ↔
      (∃ claim ∈ claims, ∃ stream ∈ claim.streams, pattern ∈ mutationPatterns (natsStreamName claim.app stream.name)) ∨
      (∃ claim stream, Foreign me claims claim stream ∧ pattern ∈ totalDenialPatterns (natsStreamName claim.app stream.name)) ∨
      ∃ claim consume, Neighbour me claims claim consume ∧
        pattern ∈ consumerPatterns (natsStreamName consume.owner consume.stream) (natsDurableName claim.app consume.durable) := by
  simp only [denyVector, mem_sort_dedup, mem_append, mem_flatMap, or_assoc]
  apply or_congr_right
  apply or_congr
  · constructor
    · rintro ⟨claim, member, stream, listed, found⟩
      by_cases usable : (owns me claim || consumes me claim stream) = true
      · rw [if_pos usable] at found
        cases found
      · rw [if_neg usable] at found
        obtain ⟨unowned, unconsumed⟩ := Bool.or_eq_false_iff.mp (Bool.eq_false_iff.mpr usable)
        exact ⟨claim, stream, ⟨member, listed, unowned, unconsumed⟩, found⟩
    · rintro ⟨claim, stream, foreign, found⟩
      refine ⟨claim, foreign.member, stream, foreign.declared, ?_⟩
      rw [foreign.unowned, foreign.unconsumed]
      exact found
  · constructor
    · rintro ⟨claim, member, found⟩
      by_cases mine : claim.app = me.app
      · rw [if_pos mine] at found
        cases found
      · rw [if_neg mine] at found
        obtain ⟨consume, listed, found⟩ := mem_flatMap.mp found
        exact ⟨claim, consume, ⟨member, listed, mine⟩, found⟩
    · rintro ⟨claim, consume, neighbour, found⟩
      refine ⟨claim, neighbour.member, ?_⟩
      rw [if_neg neighbour.other]
      exact mem_flatMap.mpr ⟨consume, neighbour.declared, found⟩

include names

variable {claims}

theorem denied_iff (subject : String) : Denied me claims subject ↔ (∃ claim ∈ claims, ∃ stream ∈ claim.streams,
        tokens subject ∈ reservedMutations (natsStreamName claim.app stream.name)) ∨
      (∃ claim stream, Foreign me claims claim stream ∧ Positioned (natsStreamName claim.app stream.name) (tokens subject)) ∨
      ∃ claim consume, Neighbour me claims claim consume ∧
        Guarded (natsStreamName consume.owner consume.stream) (natsDurableName claim.app consume.durable) (tokens subject) := by
  have plain (claim : ClaimView) (member : claim ∈ claims) (stream : StreamView) (listed : stream ∈ claim.streams) :
      Plain (natsStreamName claim.app stream.name) :=
    composed_plain (names claim member).app ((names claim member).labels stream listed)
  have durable (claim : ClaimView) (member : claim ∈ claims) (consume : ConsumeView)
      (listed : consume ∈ claim.consumes) : Plain (natsDurableName claim.app consume.durable) :=
    composed_plain (names claim member).app ((names claim member).durables consume listed)
  constructor
  · rintro ⟨pattern, member, permitted⟩
    rcases (mem_deny_vector me claims pattern).mp member with ⟨claim, member, stream, listed, found⟩ |
      ⟨claim, stream, foreign, found⟩ | ⟨claim, consume, neighbour, found⟩
    · exact .inl ⟨claim, member, stream, listed,
        (mutation_denies _ (plain claim member _ listed) subject).mp ⟨pattern, found, permitted⟩⟩
    · exact .inr (.inl ⟨claim, stream, foreign,
        (total_denies _ (plain claim foreign.member _ foreign.declared) subject).mp ⟨pattern, found, permitted⟩⟩)
    · exact .inr (.inr ⟨claim, consume, neighbour,
        (consumer_denies _ _ (durable claim neighbour.member _ neighbour.declared) subject).mp ⟨pattern, found, permitted⟩⟩)
  · rintro (⟨claim, member, stream, listed, reserved⟩ | ⟨claim, stream, foreign, positioned⟩ |
      ⟨claim, consume, neighbour, guarded⟩)
    · obtain ⟨pattern, found, permitted⟩ := (mutation_denies _ (plain claim member _ listed) subject).mpr reserved
      exact ⟨pattern, (mem_deny_vector me claims pattern).mpr (.inl ⟨claim, member, stream, listed, found⟩), permitted⟩
    · obtain ⟨pattern, found, permitted⟩ :=
        (total_denies _ (plain claim foreign.member _ foreign.declared) subject).mpr positioned
      exact ⟨pattern, (mem_deny_vector me claims pattern).mpr (.inr (.inl ⟨claim, stream, foreign, found⟩)), permitted⟩
    · obtain ⟨pattern, found, permitted⟩ :=
        (consumer_denies _ _ (durable claim neighbour.member _ neighbour.declared) subject).mpr guarded
      exact ⟨pattern, (mem_deny_vector me claims pattern).mpr (.inr (.inr ⟨claim, consume, neighbour, found⟩)), permitted⟩

end Vector

-- The two that move a stream between servers name its account first.
def apiVerbs : List String :=
  ["STREAM.CREATE", "STREAM.UPDATE", "STREAM.INFO", "STREAM.DELETE", "STREAM.PURGE", "STREAM.SNAPSHOT", "STREAM.RESTORE",
    "STREAM.MSG.GET", "STREAM.MSG.DELETE", "STREAM.LEADER.STEPDOWN", "STREAM.PEER.REMOVE", "DIRECT.GET",
    "CONSUMER.CREATE", "CONSUMER.DURABLE.CREATE", "CONSUMER.NAMES", "CONSUMER.LIST", "CONSUMER.INFO", "CONSUMER.DELETE",
    "CONSUMER.PAUSE", "CONSUMER.RESET", "CONSUMER.UNPIN", "CONSUMER.MSG.NEXT", "CONSUMER.LEADER.STEPDOWN",
    "ACCOUNT.STREAM.MOVE.*", "ACCOUNT.STREAM.CANCEL_MOVE.*"]

-- After an API verb, or in a reply, whose second form has a domain and a hash first.
inductive Addresses (stream : String) : List String → Prop
  | api (verb : String) (listed : verb ∈ apiVerbs) (path : List String)
      (spelled : Wild.accepts (readPattern (tokens verb)) path = true) (more : List String) :
      Addresses stream ("$JS" :: "API" :: path ++ stream :: more)
  | ack (consumer : String) (more : List String) : Addresses stream ("$JS" :: "ACK" :: stream :: consumer :: more)
  | ackV2 (domain account consumer : String) (more : List String) :
      Addresses stream ("$JS" :: "ACK" :: domain :: account :: stream :: consumer :: more)
  | flow (consumer : String) (more : List String) : Addresses stream ("$JS" :: "FC" :: stream :: consumer :: more)
  | flowV2 (domain account consumer : String) (more : List String) :
      Addresses stream ("$JS" :: "FC" :: domain :: account :: stream :: consumer :: more)

variable {verb : String}

theorem verb_shape (listed : verb ∈ apiVerbs) : .rest ∉ readPattern (tokens verb) ∧
      ((readPattern (tokens verb)).length = 2 ∨ (readPattern (tokens verb)).length = 3 ∨
        (readPattern (tokens verb)).head? = some (.lit "ACCOUNT")) := by
  revert verb
  decide

theorem verb_path (listed : verb ∈ apiVerbs) {path : List String}
    (spelled : Wild.accepts (readPattern (tokens verb)) path = true) :
    (∃ a b, path = [a, b]) ∨ (∃ a b c, path = [a, b, c]) ∨ ∃ left, path = "ACCOUNT" :: left := by
  obtain ⟨closed, two | three | account⟩ := verb_shape listed
  · have length := Wild.accepts_length _ closed path spelled
    rw [two] at length
    exact .inl (length_eq_two.mp length)
  · have length := Wild.accepts_length _ closed path spelled
    rw [three] at length
    exact .inr (.inl (length_eq_three.mp length))
  · obtain ⟨left, pattern⟩ := head?_eq_some_iff.mp account
    rw [pattern] at spelled
    obtain ⟨left, same, _⟩ := (Wild.accepts_lit "ACCOUNT" _ path).mp spelled
    exact .inr (.inr ⟨left, same⟩)

theorem fixed_grants {pattern : String} (member : pattern ∈ standingGrants ++ dynamicGrants) (left : List String) :
    Wild.accepts (readPattern (tokens pattern)) ("$JS" :: "API" :: "ACCOUNT" :: left) = false := by
  fin_cases member <;> rfl

theorem account_ungranted {me : ClaimView} (names : NamesAdmitted me) {subject : String} {left : List String}
    (read : tokens subject = "$JS" :: "API" :: "ACCOUNT" :: left) : ¬Granted me subject := by
  rintro ⟨pattern, member, permitted⟩
  have fixed (member : pattern ∈ standingGrants ++ dynamicGrants) : False := by
    rw [permits, read, fixed_grants member left] at permitted
    exact Bool.false_ne_true permitted
  simp only [allowList, mem_sort_dedup, mem_append, mem_cons, mem_flatMap] at member
  rcases member with ((own | standing) | ⟨stream, listed, purge⟩) | dynamic
  · rw [own, ClaimView.subjectPrefix, permits, tokens_dot, tokens_plain (label_plain names.app),
      read_pattern_front [me.app] (tokens ">") (cons_ne_nil _ _), map_singleton,
      read_token_plain (label_plain names.app), singleton_append, Wild.accepts_lit, read] at permitted
    obtain ⟨_, same, _⟩ := permitted
    have app : "$JS" = me.app := (List.cons.inj same).1
    exact absurd names.app (by rw [← app]; decide)
  · exact fixed (mem_append_left _ standing)
  · by_cases allowed : stream.allowPurge = true
    · rw [if_pos allowed, mem_singleton] at purge
      rw [purge, permits_stream "$JS.API.STREAM.PURGE." "$JS.API.STREAM.PURGE" rfl
        (composed_plain names.app (names.labels stream listed)), read] at permitted
      exact absurd permitted Bool.false_ne_true
    · rw [if_neg allowed] at purge
      cases purge
  · by_cases flagged : me.dynamicStreams = true
    · rw [if_pos flagged] at dynamic
      exact fixed (mem_append_right _ dynamic)
    · rw [if_neg flagged] at dynamic
      cases dynamic

-- What `me` can publish addresses no stream that it neither owns nor consumes.
theorem foreign_streams_sealed (ns : String) (claims : List ResourceClaim)
    (admitted : ∀ claim ∈ claims, claim.Admitted) (me : ClaimView) (mine : me ∈ peers ns claims) (claim : ClaimView)
    (stream : StreamView) (foreign : Foreign me (peers ns claims) claim stream) (subject : String)
    (published : Publishable me (peers ns claims) subject) :
    ¬Addresses (natsStreamName claim.app stream.name) (tokens subject) := by
  have names := peer_names ns claims admitted
  have refused (positioned : Positioned (natsStreamName claim.app stream.name) (tokens subject)) : False :=
    published.2 ((denied_iff me names subject).mpr (.inr (.inl ⟨claim, stream, foreign, positioned⟩)))
  intro addresses
  generalize read : tokens subject = parts at addresses
  cases addresses with
  | api verb listed path spelled more =>
    rcases verb_path listed spelled with ⟨a, b, rfl⟩ | ⟨a, b, c, rfl⟩ | ⟨left, rfl⟩
    · exact refused (read ▸ .fifth a b more)
    · exact refused (read ▸ .sixth a b c more)
    · exact account_ungranted (names me mine) read published.1
  | ack consumer more => exact refused (read ▸ .ack consumer more)
  | ackV2 domain account consumer more => exact refused (read ▸ .ackV2 domain account consumer more)
  | flow consumer more => exact refused (read ▸ .flow consumer more)
  | flowV2 domain account consumer more => exact refused (read ▸ .flowV2 domain account consumer more)

def blocksNeed : JetStreamNeed :=
  { streamsKey := some [{ name := "blocks", subjects := ["feeder.blocks.>"], maxBytes := "1Gi" }] }

theorem feeder_admitted : (jetstreamClaim "shop" "feeder" blocksNeed).Admitted := jetstream_claim_admitted "shop" (by decide)

def shopClaims : List ResourceClaim := [jetstreamClaim "shop" "feeder" blocksNeed, jetstreamClaim "shop" "indexer" {}]

def feederView : ClaimView := ⟨"shop", "feeder", false, [⟨"blocks", ["feeder.blocks.>"], false⟩], []⟩

def indexerView : ClaimView := ⟨"shop", "indexer", false, [], []⟩

theorem feeder_blocks_sealed : Publishable indexerView (peers "shop" shopClaims) "$JS.API.STREAM.INFO.audit" ∧
      ¬Addresses "feeder_blocks" (tokens "$JS.API.STREAM.INFO.audit") := by
  have admitted : ∀ claim ∈ shopClaims, claim.Admitted := by
    intro claim member
    simp only [shopClaims, mem_cons, not_mem_nil, or_false] at member
    rcases member with rfl | rfl
    · exact feeder_admitted
    · exact jetstream_claim_admitted "shop" (by decide)
  have peered : peers "shop" shopClaims = [feederView, indexerView] := by decide
  have mine : indexerView ∈ peers "shop" shopClaims := by
    rw [peered]
    decide
  have foreign : Foreign indexerView (peers "shop" shopClaims) feederView ⟨"blocks", ["feeder.blocks.>"], false⟩ := by
    rw [peered]
    exact ⟨by decide, by decide, by decide, by decide⟩
  have published : Publishable indexerView (peers "shop" shopClaims) "$JS.API.STREAM.INFO.audit" := by
    rw [peered]
    refine ⟨standing_granted _ "$JS.API.STREAM.INFO.>" (by decide) _ (by decide), ?_⟩
    simp only [Denied, denyVector, mem_sort_dedup]
    decide
  exact ⟨published, foreign_streams_sealed "shop" shopClaims admitted indexerView mine feederView _ foreign _ published⟩

end AppRafter.Nats
