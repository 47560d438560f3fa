import AppRafter.Webhook.Scope

set_option autoImplicit false

namespace AppRafter.Webhook

open Lib Application

def jsReservedSubjectRoots : List String := ["$JS.", "$SYS.", "_INBOX"]

def jetstreamPersistentRejected (scope : String) : String :=
  scope ++ ": needs.jetstream.persistent is not a jetstream option — persistence is per-stream (streams[].storage: " ++
    "file | memory), not per-claim"

def jetstreamNameRejected (scope : String) : String :=
  scope ++ ": needs.jetstream.name is not allowed — jetstream is scalar-only (ADR 0061 §6); two named claims on one " ++
    "application would share one subject prefix and be indistinguishable"

def debugOption : Option String → String
  | some text => "Some(" ++ Text.debug text ++ ")"
  | none => "None"

section Stream

variable (scope : String) (index : Nat) (stream : JetStreamStream)

def streamLabel : String := scope ++ ": needs.jetstream.streams[" ++ toString index ++ " " ++ Text.debug stream.name ++ "]"

def checkStreamName (seen : List String) : List String :=
  (if seen.contains stream.name then
    [scope ++ ": needs.jetstream.streams has a duplicate stream name " ++ Text.debug stream.name ++
      "; stream names must be unique within the application"]
  else []) ++
  (if isDns1123Label stream.name then []
  else
    [scope ++ ": needs.jetstream.streams[" ++ toString index ++ "] name " ++ Text.debug stream.name ++
      " must be a DNS-1123 label (lowercase alphanumeric + '-', start and end alphanumeric) — it becomes half of the " ++
      "composed NATS stream name `<app>_<name>`; a '_' in it would let two different applications compose the " ++
      "identical NATS stream name"])

def checkSubject (subject : String) : List String :=
  let trimmed := Text.trim subject
  if trimmed = ">" then
    [streamLabel scope index stream ++ " declares subject " ++ Text.debug subject ++
      " — a bare '>' collects the ENTIRE account, not just this application's traffic"]
  else
    match jsReservedSubjectRoots.find? (Text.startsWith trimmed) with
    | some root =>
      [streamLabel scope index stream ++ " declares subject " ++ Text.debug subject ++
        ", which starts with the reserved root " ++ Text.debug root ++
        " (JetStream API / system / inbox subjects — collecting them breaks the platform's own control plane)"]
    | none => []

def refusedStreamFields : List (String × Bool × String) :=
  [("sources", stream.sources.isSome, "a source copies another stream's messages into this one, which ADR 0061 §4.1 " ++
      "MEASURED as defeating the read half of the deny vector"),
    ("mirror", stream.mirror.isSome, "a mirror copies another stream wholesale, which ADR 0061 §4.1 MEASURED as " ++
      "defeating the read half of the deny vector"),
    ("republish", stream.republish.isSome, "republish re-emits this stream's traffic under a subject the application " ++
      "itself could not publish to"),
    ("subjectTransform", stream.subjectTransform.isSome, "a subject transform rewrites messages onto subjects outside " ++
      "this application's prefix"),
    ("placement", stream.placement.isSome, "placement is clustered topology, which arrives with Tier 2"),
    ("replicas", stream.replicas.isSome, "replication is clustered topology, which arrives with Tier 2")]

def checkRefusedStreamFields : List String :=
  (refusedStreamFields stream).flatMap fun refused =>
    if refused.2.1 then
      [streamLabel scope index stream ++ "." ++ refused.1 ++ " is not supported — " ++ refused.2.2 ++ ". It is declared " ++
        "in the schema only so this refusal reaches you: an undeclared field would be pruned by the apiserver before " ++
        "this webhook ran, and the manifest would appear to work."]
    else []

def checkDiscardPerSubject : List String :=
  if stream.discardPerSubject = some true then
    (if stream.discard = some "new" then []
    else
      [streamLabel scope index stream ++ ".discardPerSubject requires discard: \"new\" (the server rejects it otherwise)"])
    ++
    (if stream.maxMsgsPerSubject.getD 0 ≤ 0 then
      [streamLabel scope index stream ++ ".discardPerSubject requires maxMsgsPerSubject > 0 — there is no per-subject " ++
        "ceiling to discard against otherwise (the server rejects it)"]
    else [])
  else []

def checkStream (seen : List String) : List String :=
  checkStreamName scope index stream seen ++
  (if (Text.trim stream.maxBytes).toList.isEmpty then
    [streamLabel scope index stream ++ ".maxBytes must not be empty — a stream without it silently claims the whole " ++
      "account quota"]
  else []) ++
  (if stream.subjects.isEmpty then [streamLabel scope index stream ++ ".subjects must declare at least one subject"]
  else []) ++
  stream.subjects.flatMap (checkSubject scope index stream) ++
  checkRefusedStreamFields scope index stream ++
  (if stream.consumerLimits.isSome then
    [streamLabel scope index stream ++ ".consumerLimits is not supported — the JetStream controller this platform ships " ++
      "runs its legacy reconciler, which never forwards stream-level consumer limits to the server. Accepting it would " ++
      "store a setting nothing reads. Set `maxAckPending` on each `consume` entry instead; that reaches the live consumer."]
  else []) ++
  checkDiscardPerSubject scope index stream

end Stream

def seenStreamName (stream : JetStreamStream) (seen : List String) : List String :=
  if seen.contains stream.name then seen else seen ++ [stream.name]

def checkStreams (scope : String) : Nat → List JetStreamStream → List String → List String
  | _, [], _ => []
  | index, stream :: rest, seen =>
    checkStream scope index stream seen ++ checkStreams scope (index + 1) rest (seenStreamName stream seen)

def checkDeadLetter (scope : String) (index : Nat) (dlq : JetStreamDeadLetter) (seen : List String) : List String :=
  let label := scope ++ ": needs.jetstream.consume[" ++ toString index ++ "].deadLetter"
  if (Text.trim dlq.stream).toList.isEmpty then [label ++ ".stream must not be empty"]
  else
    (if !isDns1123Label dlq.stream then
      [label ++ ".stream " ++ Text.debug dlq.stream ++ " must be a DNS-1123 label — it composes into the NATS-side stream " ++
        "name `<app>_<name>` exactly as a declared stream does, and a '_' in it would make that join ambiguous"]
    else if seen.contains dlq.stream then
      [label ++ ".stream " ++ Text.debug dlq.stream ++ " collides with a stream this application already declares; a " ++
        "dead-letter queue IS a declared stream and shares that namespace"]
    else []) ++
    (if (Text.trim dlq.maxBytes).toList.isEmpty then
      [label ++ ".maxBytes must not be empty — the dead-letter queue counts against the namespace quota like any other " ++
        "declared stream"]
    else [])

def seenDeadLetter (dlq : JetStreamDeadLetter) (seen : List String) : List String :=
  if (Text.trim dlq.stream).toList.isEmpty || !isDns1123Label dlq.stream || seen.contains dlq.stream then seen
  else seen ++ [dlq.stream]

-- The queues share the streams' names; the durable check gets the names seen.
def checkDeadLetters (scope : String) : Nat → List JetStreamConsume → List String → List String × List String
  | _, [], seen => ([], seen)
  | index, consume :: rest, seen =>
    match consume.deadLetter with
    | none => checkDeadLetters scope (index + 1) rest seen
    | some dlq =>
      let later := checkDeadLetters scope (index + 1) rest (seenDeadLetter dlq seen)
      (checkDeadLetter scope index dlq seen ++ later.1, later.2)

section Consume

variable (scope : String) (index : Nat) (consume : JetStreamConsume)

def consumeLabel : String := scope ++ ": needs.jetstream.consume[" ++ toString index ++ "]"

def checkDurable (seen : List String) : List String :=
  if (Text.trim consume.durable).toList.isEmpty then [consumeLabel scope index ++ ".durable must not be empty"]
  else if !isDns1123Label consume.durable then
    [consumeLabel scope index ++ ".durable " ++ Text.debug consume.durable ++ " must be a DNS-1123 label (lowercase " ++
      "alphanumeric + '-', start and end alphanumeric) — it becomes half of the composed NATS durable name " ++
      "`<app>_<durable>`; a '_' in it would let two different applications compose the identical NATS durable name and " ++
      "silently share one consumer's delivery cursor"]
  else if seen.contains consume.durable then
    [consumeLabel scope index ++ " durable " ++ Text.debug consume.durable ++ " collides with a stream name declared by " ++
      "this application — the deny vector's position-pattern grants ($JS.API.*.*.*.S) are safe only because a durable " ++
      "can never share a name with one of this application's own streams; use a different durable name"]
  else []

def checkPushFields : List String :=
  [("deliverSubject", consume.deliverSubject.isSome), ("deliverGroup", consume.deliverGroup.isSome),
    ("flowControl", consume.flowControl.isSome), ("heartbeatInterval", consume.heartbeatInterval.isSome)].flatMap
    fun field =>
      if field.2 then
        [consumeLabel scope index ++ "." ++ field.1 ++ " is not supported — it selects PUSH delivery, which the server " ++
          "performs outside this application's publish permissions and can therefore deliver into a neighbour's subject " ++
          "tree. Pull consumers carry no such channel. Declared in the schema only so this refusal reaches you rather " ++
          "than the field being pruned."]
      else []

def checkStartPosition : List String :=
  (if consume.optStartSeq.isSome ∧ consume.deliverPolicy ≠ some "byStartSequence" then
    [consumeLabel scope index ++ ".optStartSeq requires deliverPolicy: \"byStartSequence\" (got " ++
      debugOption consume.deliverPolicy ++ "); under any other policy the server ignores it and the consumer silently " ++
      "starts somewhere else"]
  else []) ++
  (if consume.optStartTime.isSome ∧ consume.deliverPolicy ≠ some "byStartTime" then
    [consumeLabel scope index ++ ".optStartTime requires deliverPolicy: \"byStartTime\" (got " ++
      debugOption consume.deliverPolicy ++ "); under any other policy the server ignores it and the consumer silently " ++
      "starts somewhere else"]
  else [])

def checkBackoff : List String :=
  match consume.backoff with
  | none => []
  | some backoff =>
    if ¬backoff.isEmpty ∧ consume.maxDeliver.getD 0 ≤ backoff.length then
      [consumeLabel scope index ++ " declares " ++ toString backoff.length ++ " backoff step(s) but maxDeliver " ++
        (consume.maxDeliver.map toString).getD "unset" ++ "; the server requires maxDeliver to be STRICTLY greater " ++
        "than the number of backoff steps"]
    else []

def checkConsume (seen : List String) : List String :=
  (if (Text.trim consume.stream).toList.isEmpty then [consumeLabel scope index ++ ".stream must not be empty"] else []) ++
  checkDurable scope index consume seen ++
  checkPushFields scope index consume ++
  (if consume.replicas.isSome then
    [consumeLabel scope index ++ ".replicas is not supported — consumer replication is clustered topology, which " ++
      "arrives with Tier 2"]
  else []) ++
  (if consume.filterSubject.isSome ∧ consume.filterSubjects.isSome then
    [consumeLabel scope index ++ " sets both filterSubject and filterSubjects; they are mutually exclusive — use one"]
  else []) ++
  checkStartPosition scope index consume ++
  checkBackoff scope index consume ++
  (if consume.deadLetter.isSome ∧ consume.maxDeliver.getD 0 ≤ 0 then
    [consumeLabel scope index ++ ".deadLetter requires maxDeliver > 0 — the dead-letter queue collects the advisory the " ++
      "server publishes when redelivery is EXHAUSTED, so with no ceiling it would stay empty forever"]
  else [])

end Consume

def checkConsumes (scope : String) : Nat → List JetStreamConsume → List String → List String
  | _, [], _ => []
  | index, consume :: rest, seen =>
    checkConsume scope index consume seen ++ checkConsumes scope (index + 1) rest seen

def validateJetstreamNeed (js : JetStreamNeed) (scope : String) : List String :=
  let streamNames := js.streams.foldl (fun seen stream => seenStreamName stream seen) []
  let deadLetters := checkDeadLetters scope 0 js.consume streamNames
  (if js.persistent.isSome then [jetstreamPersistentRejected scope] else []) ++
  (if js.name.isSome then [jetstreamNameRejected scope] else []) ++
  checkStreams scope 0 js.streams [] ++
  deadLetters.1 ++
  checkConsumes scope 0 js.consume deadLetters.2

def jetstreamEnvOverrideDrops (scope block : String) (lost : List String) : String :=
  scope ++ ": needs.jetstream omits " ++ Text.debug block ++ " while base declares " ++ toString lost.length ++
    " of them (" ++ String.intercalate ", " lost ++ ") — a per-environment override REPLACES the whole needs.jetstream " ++
    "block (ADR 0061 §6), so this environment would lose them entirely. Repeat them here, or write \"" ++ block ++
    ": []\" to state that this environment deliberately has none."

def checkJetstreamOverride (base : JetStreamNeed) (name : String) (override : JetStreamNeed) : List ValidationError :=
  let field := "spec.environments." ++ name ++ ".needs.jetstream"
  (if ¬base.streams.isEmpty ∧ override.streamsKey.isNone then
    [⟨field, jetstreamEnvOverrideDrops name "streams" (base.streams.map fun stream => Text.debug stream.name)⟩]
  else []) ++
  (if ¬base.consume.isEmpty ∧ override.consumeKey.isNone then
    [⟨field, jetstreamEnvOverrideDrops name "consume"
      (base.consume.map fun consume => Text.debug (consume.stream ++ "/" ++ consume.durable))⟩]
  else [])

def jetstreamOf (needs : Option Needs) : Option JetStreamNeed := needs.bind (·.jetstream)

def validateJetstreamEnvOverrides (spec : ApplicationSpec) : List ValidationError :=
  match jetstreamOf (spec.base.bind (·.needs)) with
  | none => []
  | some base =>
    (environmentEntries spec).flatMap fun entry =>
      ((jetstreamOf entry.2.needs).map (checkJetstreamOverride base entry.1)).getD []

def checkJetstreamScope (field scope : String) (needs : Option Needs) : List ValidationError :=
  match jetstreamOf needs with
  | none => []
  | some js => (validateJetstreamNeed js scope).map fun message => ⟨field ++ ".needs.jetstream", message⟩

def validateJetstreamScopes (spec : ApplicationSpec) : List ValidationError :=
  checkJetstreamScope "spec.base" "base" (spec.base.bind (·.needs)) ++
  ((environmentEntries spec).flatMap fun entry =>
    checkJetstreamScope ("spec.environments." ++ entry.1) entry.1 entry.2.needs) ++
  validateJetstreamEnvOverrides spec

def applicationSpecHasJetstreamNeed (spec : ApplicationSpec) : Bool :=
  (jetstreamOf (spec.base.bind (·.needs))).isSome ||
    (environmentEntries spec).any fun entry => (jetstreamOf entry.2.needs).isSome

def validateApplicationNameForJetstream (name : String) (spec : ApplicationSpec) : List ValidationError :=
  if !applicationSpecHasJetstreamNeed spec || isDns1123Label name then []
  else
    [⟨"metadata.name", "metadata.name " ++ Text.debug name ++ " must be a DNS-1123 label (lowercase alphanumeric + '-', " ++
      "start and end alphanumeric, max 63 chars) when needs.jetstream is set — it is composed into NATS stream names and " ++
      "subject prefixes, neither of which can contain '.'; a Kubernetes object name alone (a DNS-1123 subdomain) is not " ++
      "narrow enough"⟩]

end AppRafter.Webhook
