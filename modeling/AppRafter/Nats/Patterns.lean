import Mathlib.Data.List.Dedup
import AppRafter.Lib.Wildcard
import AppRafter.Application.Claims
import AppRafter.Webhook.Admission

set_option autoImplicit false

namespace AppRafter.Nats

open Lib Application List

structure ResourceClaim where
  name : String
  ns : String
  deletionTimestamp : Option Nat := none
  ownerReferences : List OwnerReference
  spec : ResourceClaimSpec
deriving DecidableEq

structure StreamView where
  name : String
  subjects : List String
  allowPurge : Bool
deriving DecidableEq

structure ConsumeView where
  owner : String
  stream : String
  durable : String
deriving DecidableEq

structure ClaimView where
  ns : String
  app : String
  dynamicStreams : Bool
  streams : List StreamView
  consumes : List ConsumeView
deriving DecidableEq

def natsStreamName (ownerApp declared : String) : String := ownerApp ++ "_" ++ declared

def natsDurableName (consumerApp declared : String) : String := consumerApp ++ "_" ++ declared

def declaringApp (claim : ResourceClaim) : Option String :=
  (claim.ownerReferences.find? fun owner => owner.kind == "Application" && owner.controller == some true).map (·.name)

def consumeOwner (app : String) (consume : JetStreamConsume) : String := consume.owner.getD app

def deadLetterSubject (consumerApp ownerApp ownerStream declaredDurable : String) : String :=
  "$JS.EVENT.ADVISORY.CONSUMER.MAX_DELIVERIES." ++ natsStreamName ownerApp ownerStream ++ "." ++
    natsDurableName consumerApp declaredDurable

def deadLetterStream (app : String) (consume : JetStreamConsume) (dlq : JetStreamDeadLetter) : JetStreamStream :=
  { name := dlq.stream
    subjects := [deadLetterSubject app (consumeOwner app consume) consume.stream consume.durable]
    maxBytes := dlq.maxBytes
    allowPurge := false }

def deadLetterStreams (app : String) (js : ResourceClaimJetStream) : List JetStreamStream :=
  js.consume.filterMap fun consume => consume.deadLetter.map (deadLetterStream app consume)

def materialisedStreams (app : String) (js : ResourceClaimJetStream) : List JetStreamStream :=
  js.streams ++ deadLetterStreams app js

def claimView (claim : ResourceClaim) : Option ClaimView :=
  if claim.spec.type ≠ "jetstream" then none else
    match claim.spec.jetstream, declaringApp claim with
    | some js, some app =>
      some
        { ns := claim.ns
          app := app
          dynamicStreams := js.dynamicStreams
          streams := (materialisedStreams app js).map fun stream => ⟨stream.name, stream.subjects, stream.allowPurge⟩
          consumes := js.consume.map fun consume => ⟨consumeOwner app consume, consume.stream, consume.durable⟩ }
    | _, _ => none

-- As the application controller writes it for an admitted Application.
def ResourceClaim.Admitted (claim : ResourceClaim) : Prop :=
  ∃ app effective uid, Webhook.AdmittedEffective app effective ∧
    ∃ payload ∈ generateResourceClaims effective app uid claim.ns,
      payload.name = claim.name ∧ payload.ownerReferences = claim.ownerReferences ∧ payload.spec = claim.spec

def claimViews (claims : List ResourceClaim) : List ClaimView := claims.filterMap claimView

def sortDedup (list : List String) : List String := (list.insertionSort (· ≤ ·)).dedup

@[simp]
theorem mem_sort_dedup (entry : String) (list : List String) : entry ∈ sortDedup list ↔ entry ∈ list := by
  rw [sortDedup, List.mem_dedup, mem_insertionSort]

def ClaimView.subjectPrefix (view : ClaimView) : String := view.app ++ "."

def ackFcPatterns (stream : String) (durable : Option String) : List String :=
  let tail := match durable with
    | some durable => stream ++ "." ++ durable
    | none => stream
  ["$JS.ACK." ++ tail ++ ".>", "$JS.ACK.*.*." ++ tail ++ ".>", "$JS.FC." ++ tail ++ ".>", "$JS.FC.*.*." ++ tail ++ ".>"]

def totalDenialPatterns (stream : String) : List String :=
  ["$JS.API.*.*." ++ stream, "$JS.API.*.*." ++ stream ++ ".>", "$JS.API.*.*.*." ++ stream,
    "$JS.API.*.*.*." ++ stream ++ ".>"] ++ ackFcPatterns stream none

def standingGrants : List String :=
  ["$JS.ACK.>", "$JS.FC.>", "$JS.API.INFO", "$JS.API.STREAM.NAMES", "$JS.API.STREAM.INFO.>", "$JS.API.STREAM.MSG.GET.>",
    "$JS.API.DIRECT.GET.>", "$JS.API.CONSUMER.CREATE.>", "$JS.API.CONSUMER.DURABLE.CREATE.>",
    "$JS.API.CONSUMER.INFO.>", "$JS.API.CONSUMER.DELETE.>", "$JS.API.CONSUMER.LIST.>", "$JS.API.CONSUMER.NAMES.>",
    "$JS.API.CONSUMER.MSG.NEXT.>", "$JS.API.CONSUMER.PAUSE.>", "$JS.API.CONSUMER.RESET.>"]

def dynamicGrants : List String :=
  ["$JS.API.STREAM.CREATE.>", "$JS.API.STREAM.UPDATE.>", "$JS.API.STREAM.DELETE.>", "$JS.API.STREAM.MSG.DELETE.>"]

variable (me : ClaimView)

def allowList : List String :=
  sortDedup ((me.subjectPrefix ++ ">") :: standingGrants ++
      (me.streams.flatMap fun stream =>
        if stream.allowPurge then ["$JS.API.STREAM.PURGE." ++ natsStreamName me.app stream.name] else []) ++
      if me.dynamicStreams then dynamicGrants else [])

-- Classes (B), (C) and (D), each for one stream or one declared consumer.
def mutationPatterns (stream : String) : List String :=
  ["$JS.API.STREAM.CREATE." ++ stream, "$JS.API.STREAM.UPDATE." ++ stream, "$JS.API.STREAM.DELETE." ++ stream,
    "$JS.API.STREAM.MSG.DELETE." ++ stream]

def owns (me claim : ClaimView) : Bool := claim.app == me.app

def consumes (me claim : ClaimView) (stream : StreamView) : Bool :=
  me.consumes.any fun consume => consume.owner == claim.app && consume.stream == stream.name

def consumerPatterns (stream durable : String) : List String :=
  ["$JS.API.CONSUMER.*." ++ stream ++ "." ++ durable, "$JS.API.CONSUMER.*.*." ++ stream ++ "." ++ durable] ++
    ackFcPatterns stream (some durable)

variable (namespaceClaims : List ClaimView)

def denyVector : List String :=
  sortDedup
    ((namespaceClaims.flatMap fun claim =>
        claim.streams.flatMap fun stream => mutationPatterns (natsStreamName claim.app stream.name)) ++
      (namespaceClaims.flatMap fun claim =>
        claim.streams.flatMap fun stream =>
          if owns me claim || consumes me claim stream then []
          else totalDenialPatterns (natsStreamName claim.app stream.name)) ++
      namespaceClaims.flatMap fun claim =>
        if claim.app = me.app then []
        else
          claim.consumes.flatMap fun consume =>
            consumerPatterns (natsStreamName consume.owner consume.stream) (natsDurableName claim.app consume.durable))

-- One namespace's claims, in the order of their applications.
def peers (ns : String) (claims : List ResourceClaim) : List ClaimView :=
  ((claimViews claims).filter fun view => view.ns == ns).insertionSort fun a b => a.app ≤ b.app

theorem mem_peers (ns : String) (claims : List ResourceClaim) (view : ClaimView) :
    view ∈ peers ns claims ↔ view.ns = ns ∧ ∃ claim ∈ claims, claimView claim = some view := by
  rw [peers, mem_insertionSort, mem_filter, claimViews, mem_filterMap, beq_iff_eq, and_comm]

variable (subject : String)

-- nats-server's reading: tokens between dots, `*` one token, a last `>` at least one.
def tokens : List String := Text.split '.' subject

def readToken (token : String) : Wild String := if token = "*" then .one else .lit token

def readPattern : List String → List (Wild String)
  | [] => []
  | [token] => if token = ">" then [.rest] else [readToken token]
  | token :: more => readToken token :: readPattern more

def permits (pattern subject : String) : Bool := Wild.accepts (readPattern (tokens pattern)) (tokens subject)

def Denied : Prop :=
  ∃ pattern ∈ denyVector me namespaceClaims, permits pattern subject = true

def Granted : Prop := ∃ pattern ∈ allowList me, permits pattern subject = true

theorem standing_granted (pattern : String) (standing : pattern ∈ standingGrants) (subject : String)
    (permitted : permits pattern subject = true) : Granted me subject := by
  refine ⟨pattern, ?_, permitted⟩
  rw [allowList, mem_sort_dedup]
  exact mem_append_left _ (mem_append_left _ (mem_cons_of_mem _ standing))

def Publishable : Prop :=
  Granted me subject ∧ ¬Denied me namespaceClaims subject

open Webhook Option

structure Plain (token : String) : Prop where
  undotted : '.' ∉ token.toList
  notOne : token ≠ "*"
  notRest : token ≠ ">"

variable {token : String} {claim : ResourceClaim} {view : ClaimView} {js : ResourceClaimJetStream}

theorem tokens_plain (plain : Plain token) : tokens token = [token] := Text.split_whole '.' token plain.undotted

theorem tokens_dot (a b : String) : tokens (a ++ "." ++ b) = tokens a ++ tokens b := Text.split_join '.' a b

theorem tokens_open (opening front : String) (ends : opening = front ++ ".") (b : String) :
    tokens (opening ++ b) = tokens front ++ tokens b := by
  rw [ends, tokens_dot]

theorem tokens_close (a : String) : tokens (a ++ ".>") = tokens a ++ [">"] := by
  have cut : a ++ ".>" = a ++ "." ++ ">" := by
    rw [String.append_assoc]
    rfl
  rw [cut, tokens_dot]
  rfl

theorem read_token_plain (plain : Plain token) : readToken token = .lit token := by
  rw [readToken, if_neg plain.notOne]

theorem read_pattern_front (front back : List String) (more : back ≠ []) :
    readPattern (front ++ back) = front.map readToken ++ readPattern back := by
  induction front with
  | nil => rfl
  | cons token front ih =>
    cases split : front ++ back with
    | nil => exact absurd (append_eq_nil_iff.mp split).2 more
    | cons next left =>
      rw [cons_append, split, readPattern, ← split, ih]
      · rfl
      · exact cons_ne_nil next left

theorem read_pattern_rest (front : List String) : readPattern (front ++ [">"]) = front.map readToken ++ [.rest] := by
  rw [read_pattern_front front [">"] (cons_ne_nil _ _)]
  rfl

theorem read_pattern_plain (front : List String) (plain : Plain token) :
    readPattern (front ++ [token]) = front.map readToken ++ [.lit token] := by
  rw [read_pattern_front front [token] (cons_ne_nil _ _), readPattern, if_neg plain.notRest, read_token_plain plain]

section Readings

variable (opening front : String) (ends : opening = front ++ ".")

include ends

variable {stream : String}

theorem permits_stream (plain : Plain stream) (subject : String) : permits (opening ++ stream) subject =
      Wild.accepts ((tokens front).map readToken ++ [.lit stream]) (tokens subject) := by
  rw [permits, tokens_open _ front ends, tokens_plain plain, read_pattern_plain _ plain]

theorem permits_stream_rest (plain : Plain stream) (subject : String) : permits (opening ++ stream ++ ".>") subject =
      Wild.accepts ((tokens front).map readToken ++ [.lit stream, .rest]) (tokens subject) := by
  rw [permits, tokens_close, tokens_open _ front ends, tokens_plain plain, read_pattern_rest,
    map_append, map_singleton, read_token_plain plain, append_assoc]
  rfl

end Readings

section Names

variable {s : String} (label : isDns1123Label s = true)

include label in
theorem label_text : s.toList ≠ [] ∧ ∀ c ∈ s.toList, Text.lowerAlphanumeric c = true ∨ c = '-' := by
  unfold isDns1123Label at label
  cases first : s.toList.head? with
  | none => simp [first] at label
  | some head =>
    cases last : s.toList.getLast? with
    | none => simp [first, last] at label
    | some final =>
      simp only [first, last, Bool.and_eq_true, List.all_eq_true, Bool.or_eq_true, beq_iff_eq] at label
      refine ⟨?_, label.2⟩
      intro empty
      rw [empty] at first
      cases first

include label in
theorem label_without (c : Char) (other : Text.lowerAlphanumeric c = false) (notDash : c ≠ '-') : c ∉ s.toList := by
  intro member
  rcases (label_text label).2 c member with alphanumeric | dash
  · rw [other] at alphanumeric
    exact Bool.false_ne_true alphanumeric
  · exact notDash dash

include label in
theorem label_undotted : '.' ∉ s.toList := label_without label '.' (by decide) (by decide)

include label in
theorem label_unscored : '_' ∉ s.toList := label_without label '_' (by decide) (by decide)

include label in
theorem label_plain : Plain s where
  undotted := label_undotted label
  notOne := by
    rintro rfl
    exact absurd label (by decide)
  notRest := by
    rintro rfl
    exact absurd label (by decide)

variable (app declared : String)

theorem composed_chars : (natsStreamName app declared).toList = app.toList ++ '_' :: declared.toList := by
  simp [natsStreamName]

theorem composed_scored : '_' ∈ (natsStreamName app declared).toList := by
  rw [composed_chars]
  exact mem_append_right _ mem_cons_self

theorem composed_plain {app declared : String} (owner : isDns1123Label app = true)
    (label : isDns1123Label declared = true) : Plain (natsStreamName app declared) where
  undotted := by
    rw [composed_chars, mem_append, mem_cons]
    rintro (member | dot | member)
    · exact label_undotted owner member
    · exact absurd dot (by decide)
    · exact label_undotted label member
  notOne := by
    intro same
    have scored := composed_scored app declared
    rw [same] at scored
    exact absurd scored (by decide)
  notRest := by
    intro same
    have scored := composed_scored app declared
    rw [same] at scored
    exact absurd scored (by decide)

-- The separator is in neither half, so a composed name is read back in one way.
theorem composed_injective {app declared otherApp other : String} (owner : isDns1123Label app = true)
    (otherOwner : isDns1123Label otherApp = true) (same : natsStreamName app declared = natsStreamName otherApp other) :
    app = otherApp ∧ declared = other := by
  have chars := congrArg String.toList same
  rw [composed_chars, composed_chars] at chars
  obtain ⟨apps, names⟩ := Text.first_cut_unique '_' _ _ _ _ (label_unscored owner) (label_unscored otherOwner) chars
  exact ⟨String.toList_inj.mp apps, String.toList_inj.mp names⟩

end Names

structure NamesAdmitted (view : ClaimView) : Prop where
  app : isDns1123Label view.app = true
  labels : ∀ stream ∈ view.streams, isDns1123Label stream.name = true
  durables : ∀ consume ∈ view.consumes, isDns1123Label consume.durable = true
  apart : ∀ consume ∈ view.consumes, ∀ stream ∈ view.streams, consume.durable ≠ stream.name

theorem claim_view_cases (viewed : claimView claim = some view) :
    claim.spec.type = "jetstream" ∧ ∃ js app, claim.spec.jetstream = some js ∧ declaringApp claim = some app ∧
      view = ⟨claim.ns, app, js.dynamicStreams,
        (materialisedStreams app js).map fun stream => ⟨stream.name, stream.subjects, stream.allowPurge⟩,
        js.consume.map fun consume => ⟨consumeOwner app consume, consume.stream, consume.durable⟩⟩ := by
  unfold claimView at viewed
  by_cases typed : claim.spec.type = "jetstream"
  · rw [if_neg (not_not.mpr typed)] at viewed
    cases declared : claim.spec.jetstream with
    | none => simp [declared] at viewed
    | some js =>
      cases owner : declaringApp claim with
      | none => simp [declared, owner] at viewed
      | some app =>
        simp only [declared, owner, some.injEq] at viewed
        exact ⟨typed, js, app, rfl, rfl, viewed.symm⟩
  · rw [if_pos typed] at viewed
    cases viewed

theorem jetstream_entry_unnamed {effective : ApplicationBaseSpec} {need : ServiceNeed}
    (listed : .service .jetstream need ∈ needEntries effective) : need.name = none := by
  unfold needEntries at listed
  cases used : effective.needs with
  | none => simp [used] at listed
  | some needs =>
    have entry : ∃ js, needs.jetstream = some js ∧ js.asServiceNeed = need := by
      simpa [used, Needs.entries] using listed
    obtain ⟨js, _, rfl⟩ := entry
    rfl

theorem admitted_need (admitted : claim.Admitted) (declared : claim.spec.jetstream = some js) :
    ∃ app, declaringApp claim = some app ∧ claim.name = claimName app "jetstream" none ∧ isDns1123Label app = true ∧
      ∃ need scope, validateJetstreamNeed need scope = [] ∧ js.streams = need.streams ∧ js.consume = need.consume := by
  obtain ⟨app, effective, uid, allowed, payload, member, named, owned, specified⟩ := admitted
  obtain ⟨entry, listed, rfl⟩ := mem_map.mp member
  refine ⟨app, ?_, ?_⟩
  · rw [declaringApp, ← owned]
    rfl
  · rw [← specified] at declared
    cases entry with
    | disk disk =>
      simp only [claimSpec, diskClaimSpec] at declared
      split at declared <;> cases declared
    | service type need =>
      cases type with
      | jetstream =>
        obtain ⟨own, needed, rfl⟩ := map_eq_some_iff.mp declared
        obtain ⟨label, scope, valid⟩ := admitted_jetstream allowed needed
        refine ⟨?_, label, own, scope, valid, rfl, rfl⟩
        rw [← named]
        change claimName app "jetstream" need.name = _
        rw [jetstream_entry_unnamed listed]
      | pg => cases declared
      | clickhouse => cases declared
      | redis => cases declared
      | s3 => cases declared
      | notifications => cases declared

theorem admitted_claim (admitted : claim.Admitted) (declared : claim.spec.jetstream = some js) :
    ∃ app, declaringApp claim = some app ∧ claim.name = claimName app "jetstream" none ∧ isDns1123Label app = true ∧
      StreamNames js.streams js.consume := by
  obtain ⟨app, owner, named, label, need, scope, valid, streams, consume⟩ := admitted_need admitted declared
  refine ⟨app, owner, named, label, ?_⟩
  rw [streams, consume]
  exact jetstream_need_names valid

theorem view_names (claim : ResourceClaim) (admitted : claim.Admitted) (view : ClaimView)
    (viewed : claimView claim = some view) : NamesAdmitted view := by
  obtain ⟨typed, js, app, declared, owner, rfl⟩ := claim_view_cases viewed
  obtain ⟨other, owned, _, label, names⟩ := admitted_claim admitted declared
  rw [owner] at owned
  cases owned
  have streams (stream : JetStreamStream) (member : stream ∈ materialisedStreams app js) :
      isDns1123Label stream.name = true ∧ ∀ entry ∈ js.consume, entry.durable ≠ stream.name := by
    rcases mem_append.mp member with own | queue
    · exact ⟨names.labels stream own, fun entry listed same => names.durablesApart entry listed stream own same.symm⟩
    · obtain ⟨entry, listed, built⟩ := mem_filterMap.mp queue
      obtain ⟨dlq, queued, rfl⟩ := map_eq_some_iff.mp built
      exact ⟨names.queues entry listed dlq queued,
        fun other behind same => names.durablesQueues other behind entry listed dlq queued same.symm⟩
  exact
    { app := label
      labels := by
        intro view member
        obtain ⟨stream, listed, rfl⟩ := mem_map.mp member
        exact (streams stream listed).1
      durables := by
        intro view member
        obtain ⟨entry, listed, rfl⟩ := mem_map.mp member
        exact names.durables entry listed
      apart := by
        intro consume declared view member
        obtain ⟨stream, listed, rfl⟩ := mem_map.mp member
        obtain ⟨entry, behind, rfl⟩ := mem_map.mp declared
        exact (streams stream listed).2 entry behind }

theorem viewed_name (admitted : claim.Admitted)
    (viewed : claimView claim = some view) : claim.ns = view.ns ∧ claim.name = claimName view.app "jetstream" none := by
  obtain ⟨typed, js, app, declared, owner, rfl⟩ := claim_view_cases viewed
  obtain ⟨other, owned, named, _⟩ := admitted_claim admitted declared
  rw [owner] at owned
  cases owned
  exact ⟨rfl, named⟩

theorem peer_names (ns : String) (claims : List ResourceClaim) (admitted : ∀ claim ∈ claims, claim.Admitted)
    (view : ClaimView) (member : view ∈ peers ns claims) : NamesAdmitted view := by
  obtain ⟨_, claim, listed, viewed⟩ := (mem_peers ns claims view).mp member
  exact view_names claim (admitted claim listed) view viewed

def streaming (need : JetStreamNeed) : ApplicationBaseSpec :=
  { image := some "ghcr.io/acme/shop:v1", needs := some { jetstream := some need } }

def jetstreamClaim (ns app : String) (need : JetStreamNeed) : ResourceClaim :=
  { name := claimName app "jetstream" none
    ns := ns
    ownerReferences := [applicationOwner app (app ++ "-uid")]
    spec := serviceClaimSpec (streaming need) .jetstream need.asServiceNeed }

theorem jetstream_claim_admitted (ns : String) {app : String} {need : JetStreamNeed}
    (allowed : Webhook.admitted app { base := some (streaming need) } = true) : (jetstreamClaim ns app need).Admitted := by
  refine ⟨app, streaming need, app ++ "-uid", ⟨_, allowed, rfl⟩, ?_⟩
  exact ⟨_, mem_map.mpr ⟨.service .jetstream need.asServiceNeed, by simp [needEntries, streaming, Needs.entries], rfl⟩,
    rfl, rfl, rfl⟩

end AppRafter.Nats
