import AppRafter.Nats.Reclaim

set_option autoImplicit false

namespace AppRafter.Nats

open Lib Application Webhook List

structure Departure where
  claim : ResourceClaim
  configNs : Option String := none
  deletion : Nat

def Departure.snapshot (departed : Departure) : RetainedClaim :=
  snapshotRetainedClaim departed.configNs departed.claim departed.deletion

def Departure.Expired (departed : Departure) (now : Nat) : Prop := shouldGc departed.snapshot.retainUntil now = true

def SnapshotsKeyed (gone : List Departure) : Prop :=
  ∀ first ∈ gone, ∀ second ∈ gone, first.snapshot.name = second.snapshot.name → first = second

def declaredStreams (claim : ResourceClaim) : List String :=
  match claim.spec.jetstream, declaringApp claim with
  | some js, some app => js.streams.map fun stream => natsStreamName app stream.name
  | _, _ => []

def Live (claims : List ResourceClaim) (ns : String) (claim : ResourceClaim) (view : ClaimView) : Prop :=
  claim ∈ claims ∧ claimIsLive claim = true ∧ claimView claim = some view ∧ view.ns = ns

def Retained (now : Nat) (gone : List Departure) (ns : String) (view : ClaimView) : Prop :=
  ∃ departed ∈ gone, ¬departed.Expired now ∧ claimView departed.claim = some view ∧ view.ns = ns

def Named (view : ClaimView) (stream : StreamSummary) : Prop :=
  ∃ own ∈ view.streams, stream.name = natsStreamName view.app own.name

def Provisioned (view : ClaimView) (stream : StreamSummary) : Prop :=
  ∃ own ∈ view.streams, stream = ⟨natsStreamName view.app own.name, own.subjects⟩

def Under (view : ClaimView) (stream : StreamSummary) : Prop := subjectsWhollyUnder stream.subjects view.subjectPrefix = true

theorem starts_with_iff (s start : String) : Text.startsWith s start = true ↔ ∃ rest, s.toList = start.toList ++ rest := by
  rw [Text.startsWith, isPrefixOf_iff_prefix]
  exact ⟨fun ⟨rest, same⟩ => ⟨rest, same.symm⟩, fun ⟨rest, same⟩ => ⟨rest, same.symm⟩⟩

variable {subject : String}

theorem prefixes_apart {first second : ClaimView} (firstNames : NamesAdmitted first) (secondNames : NamesAdmitted second) (starts : Text.startsWith subject first.subjectPrefix = true)
    (other : Text.startsWith subject second.subjectPrefix = true) : first.app = second.app := by
  obtain ⟨rest, split⟩ := (starts_with_iff _ _).mp starts
  obtain ⟨left, cut⟩ := (starts_with_iff _ _).mp other
  rw [split] at cut
  simp only [ClaimView.subjectPrefix, String.toList_append, append_assoc] at cut
  exact String.toList_inj.mp (Text.first_cut_unique '.' _ _ _ _ (label_undotted firstNames.app)
    (label_undotted secondNames.app) cut).1

theorem under_apart (first second : ClaimView) (firstNames : NamesAdmitted first) (secondNames : NamesAdmitted second)
    (stream : StreamSummary) (under : Under first stream) (other : Under second stream) : first.app = second.app := by
  unfold Under subjectsWhollyUnder at under other
  cases subjects : stream.subjects with
  | nil => simp [subjects] at under
  | cons subject more =>
    simp only [subjects, isEmpty_cons, Bool.not_false, Bool.true_and, all_cons, Bool.and_eq_true] at under other
    exact prefixes_apart firstNames secondNames under.1 other.1

theorem head_append (opening rest : String) (c : Char) (starts : opening.toList.head? = some c) :
    (opening ++ rest).toList.head? = some c := by
  rw [String.toList_append, head?_append, starts]
  rfl

theorem dead_letter_subject_head (consumer owner stream durable : String) :
    (deadLetterSubject consumer owner stream durable).toList.head? = some '$' := by
  apply head_append
  apply head_append
  apply head_append
  decide

-- A label has no `$`, so no application's prefix starts an advisory subject.
theorem advisory_outside {view : ClaimView} (names : NamesAdmitted view)
    (advisory : subject.toList.head? = some '$') : Text.startsWith subject view.subjectPrefix = false := by
  rw [Bool.eq_false_iff]
  intro starts
  obtain ⟨rest, split⟩ := (starts_with_iff _ _).mp starts
  have dollar : '$' ∉ view.app.toList := label_without names.app '$' (by decide) (by decide)
  have named := (label_text names.app).1
  cases chars : view.app.toList with
  | nil => exact named chars
  | cons head tail =>
    rw [split, ClaimView.subjectPrefix, String.toList_append, chars] at advisory
    cases advisory
    rw [chars] at dollar
    exact dollar mem_cons_self

def deleted (snapshot : RetainedClaim) (claims : List ResourceClaim) (now : Nat)
    (servers : String → Option (List StreamSummary)) : List String :=
  (gcReconcile snapshot claims now servers).streams

-- The claims and RetainedClaims are of admitted applications; stream names are distinct.
structure Reclaims (now : Nat) (claims : List ResourceClaim) (gone : List Departure) (departing : Departure)
    (me : ClaimView) (listing : List StreamSummary) : Prop where
  admitted : ∀ claim ∈ claims, claim.Admitted
  admittedGone : ∀ departed ∈ gone, departed.claim.Admitted
  keyed : SnapshotsKeyed gone
  member : departing ∈ gone
  viewed : claimView departing.claim = some me
  expired : departing.Expired now
  distinct : ∀ first ∈ listing, ∀ second ∈ listing, first.name = second.name → first = second

section Pass

variable (now : Nat) (claims : List ResourceClaim) (gone : List Departure) (departing : Departure) (me : ClaimView)

def listed (servers : String → Option (List StreamSummary)) : List StreamSummary := (servers (gcNs departing.snapshot)).getD []

variable (claim : ResourceClaim)

theorem viewed_streams (view : ClaimView) (viewed : claimView claim = some view) :
    ∃ js, claim.spec.jetstream = some js ∧ declaringApp claim = some view.app ∧
      view.streams = (materialisedStreams view.app js).map fun stream => ⟨stream.name, stream.subjects, stream.allowPurge⟩ := by
  obtain ⟨_, js, app, declared, owner, rfl⟩ := claim_view_cases viewed
  exact ⟨js, declared, owner, rfl⟩

theorem snapshot_app (viewed : claimView departing.claim = some me) : gcApp departing.snapshot = me.app := by
  obtain ⟨js, _, owner, _⟩ := viewed_streams _ _ viewed
  simp [gcApp, Departure.snapshot, snapshotRetainedClaim, owner]

theorem snapshot_declared (viewed : claimView departing.claim = some me) :
    gcDeclared departing.snapshot = declaredStreams departing.claim := by
  obtain ⟨js, declared, owner, _⟩ := viewed_streams _ _ viewed
  rw [gcDeclared, snapshot_app _ me viewed]
  simp [Departure.snapshot, snapshotRetainedClaim, declaredStreams, declared, owner]

theorem declared_composed (view : ClaimView) (viewed : claimView claim = some view) (name : String)
    (member : name ∈ declaredStreams claim) : ∃ own, name = natsStreamName view.app own := by
  obtain ⟨js, declared, owner, _⟩ := viewed_streams claim view viewed
  simp only [declaredStreams, declared, owner, mem_map] at member
  obtain ⟨stream, _, same⟩ := member
  exact ⟨stream.name, same.symm⟩

variable {now claims gone departing me}

variable {listing : List StreamSummary} {servers : String → Option (List StreamSummary)} {view : ClaimView}
  {claim : ResourceClaim} {stream : StreamSummary}

theorem Reclaims.names (pass : Reclaims now claims gone departing me listing) : NamesAdmitted me :=
  view_names _ (pass.admittedGone _ pass.member) me pass.viewed

theorem live_other (pass : Reclaims now claims gone departing me listing)
    (gone_still : recovered departing.snapshot claims = false) (claim : ResourceClaim) (view : ClaimView)
    (live : Live claims me.ns claim view) : view.app ≠ me.app := by
  intro same
  obtain ⟨member, alive, viewed, here⟩ := live
  obtain ⟨claimNs, claimNamed⟩ := viewed_name (pass.admitted claim member) viewed
  obtain ⟨departedNs, departedNamed⟩ := viewed_name (pass.admittedGone _ pass.member) pass.viewed
  have again : recovered departing.snapshot claims = true := by
    rw [recovered, any_eq_true]
    refine ⟨claim, member, ?_⟩
    simp [Departure.snapshot, snapshotRetainedClaim, claimNs, claimNamed, departedNs, departedNamed, here, same, alive]
  rw [again] at gone_still
  cases gone_still

theorem retained_other (pass : Reclaims now claims gone departing me listing)
    (view : ClaimView) (retained : Retained now gone me.ns view) : view.app ≠ me.app := by
  intro same
  obtain ⟨departed, member, kept, viewed, here⟩ := retained
  obtain ⟨departedNs, departedNamed⟩ := viewed_name (pass.admittedGone _ member) viewed
  obtain ⟨ownNs, ownNamed⟩ := viewed_name (pass.admittedGone _ pass.member) pass.viewed
  have one : departed = departing := by
    apply pass.keyed departed member departing pass.member
    simp [Departure.snapshot, snapshotRetainedClaim, departedNs, departedNamed, ownNs, ownNamed, here, same]
  rw [one] at kept
  exact kept pass.expired

variable (pass : Reclaims now claims gone departing me (listed departing servers))
  (gone_still : recovered departing.snapshot claims = false)

include pass in
-- The claim's own streams by name, and by subjects what no listed claim declares.
include gone_still in
theorem deleted_iff (claimed : namespaceStillClaimed claims me.ns = true)
    (stream : StreamSummary) (member : stream ∈ listed departing servers) :
    stream.name ∈ deleted departing.snapshot claims now servers ↔ stream.name ∈ declaredStreams departing.claim ∨
        stream.name ∉ protectedStreamNames claims me.ns ∧ Under me stream := by
  have names := pass.names
  have named : me.app.toList.isEmpty = false := isEmpty_eq_false_iff.mpr (label_text names.app).1
  have here : departing.snapshot.claimRef.ns = me.ns := (viewed_name (pass.admittedGone _ pass.member) pass.viewed).1
  have chosen : swept me.app (declaredStreams departing.claim) (protectedStreamNames claims me.ns) stream = true ↔
      stream.name ∈ declaredStreams departing.claim ∨ stream.name ∉ protectedStreamNames claims me.ns ∧ Under me stream := by
    simp [swept, named, Under, ClaimView.subjectPrefix]
  rw [deleted, mem_reconcile_streams servers pass.expired gone_still,
    snapshot_app _ me pass.viewed, snapshot_declared _ me pass.viewed, here, claimed, ← chosen]
  constructor
  · rintro ⟨other, listed, same, unclaimed | taken⟩
    · cases unclaimed
    · rw [← pass.distinct other listed stream member same]
      exact taken
  · intro taken
    exact ⟨stream, member, rfl, .inr taken⟩

include pass in
-- A neighbour's stream goes only by its subjects.
theorem named_kept (names : NamesAdmitted view) (other : view.app ≠ me.app) (name : String) :
    natsStreamName view.app name ∉ declaredStreams departing.claim := by
  intro member
  obtain ⟨own, same⟩ := declared_composed _ me pass.viewed _ member
  exact other (composed_injective names.app pass.names.app same).1

theorem live_claimed (claim : ResourceClaim) (view : ClaimView) (ns : String) (live : Live claims ns claim view) :
    namespaceStillClaimed claims ns = true := by
  obtain ⟨member, _, viewed, here⟩ := live
  obtain ⟨typed, _, _, _, _, rfl⟩ := claim_view_cases viewed
  rw [namespaceStillClaimed, any_eq_true]
  exact ⟨claim, member, by simpa [typed] using here⟩

theorem live_protected {ns : String} (live : Live claims ns claim view)
    {name : String} (declared : name ∈ declaredStreams claim) : name ∈ protectedStreamNames claims ns := by
  obtain ⟨member, _, viewed, here⟩ := live
  obtain ⟨js, needed, owner, _⟩ := viewed_streams claim view viewed
  obtain ⟨_, _, _, _, _, rfl⟩ := claim_view_cases viewed
  simp only [declaredStreams, needed, owner, mem_map] at declared
  exact (mem_protected claims ns name).mpr ⟨claim, member, here, js, _, needed, owner, declared⟩

theorem provisioned_cases (viewed : claimView claim = some view) (provisioned : Provisioned view stream) :
    stream.name ∈ declaredStreams claim ∨ ∃ subject, stream.subjects = [subject] ∧ subject.toList.head? = some '$' := by
  obtain ⟨own, member, rfl⟩ := provisioned
  obtain ⟨js, needed, owner, streams⟩ := viewed_streams claim view viewed
  rw [streams] at member
  obtain ⟨made, listed, rfl⟩ := mem_map.mp member
  rcases mem_append.mp listed with declared | queue
  · left
    simp only [declaredStreams, needed, owner]
    exact mem_map.mpr ⟨made, declared, rfl⟩
  · right
    obtain ⟨consume, _, built⟩ := mem_filterMap.mp queue
    obtain ⟨dlq, _, rfl⟩ := Option.map_eq_some_iff.mp built
    exact ⟨_, rfl, dead_letter_subject_head _ _ _ _⟩

theorem advisory_not_under (names : NamesAdmitted view) {subject : String}
    (only : stream.subjects = [subject]) (advisory : subject.toList.head? = some '$') : ¬Under view stream := by
  rw [Under, only]
  simp [subjectsWhollyUnder, advisory_outside names advisory]

include pass in
include gone_still in
theorem under_kept (claimed : namespaceStillClaimed claims me.ns = true)
    (view : ClaimView) (names : NamesAdmitted view) (other : view.app ≠ me.app) (stream : StreamSummary)
    (member : stream ∈ listed departing servers) (under : Under view stream)
    (foreign : stream.name ∉ declaredStreams departing.claim) :
    stream.name ∉ deleted departing.snapshot claims now servers := by
  intro taken
  rcases (deleted_iff pass gone_still claimed _ member).mp taken with own | ⟨_, swept⟩
  · exact foreign own
  · exact other (under_apart view me names pass.names _ under swept)

include pass in
include gone_still in
theorem live_spared (claim : ResourceClaim) (view : ClaimView)
    (live : Live claims me.ns claim view) (stream : StreamSummary) (member : stream ∈ listed departing servers)
    (belongs : stream.name ∈ declaredStreams claim ∨ Provisioned view stream ∨
      Under view stream ∧ stream.name ∉ declaredStreams departing.claim) :
    stream.name ∉ deleted departing.snapshot claims now servers := by
  have viewed : claimView claim = some view := live.2.2.1
  have names : NamesAdmitted view := view_names claim (pass.admitted claim live.1) view viewed
  have other := live_other pass gone_still claim view live
  have claimed := live_claimed claim view me.ns live
  have declared_spared (declared : stream.name ∈ declaredStreams claim) :
      stream.name ∉ deleted departing.snapshot claims now servers := by
    intro taken
    rcases (deleted_iff pass gone_still claimed _ member).mp taken with own | ⟨unprotected, _⟩
    · obtain ⟨name, same⟩ := declared_composed claim view viewed _ declared
      rw [same] at own
      exact named_kept pass names other name own
    · exact unprotected (live_protected live declared)
  rcases belongs with declared | provisioned | ⟨under, foreign⟩
  · exact declared_spared declared
  · rcases provisioned_cases viewed provisioned with declared | ⟨subject, only, advisory⟩
    · exact declared_spared declared
    · intro taken
      obtain ⟨own, _, rfl⟩ := provisioned
      rcases (deleted_iff pass gone_still claimed _ member).mp taken with declared | ⟨_, swept⟩
      · exact named_kept pass names other own.name declared
      · exact advisory_not_under pass.names only advisory swept
  · exact under_kept pass gone_still claimed view names other _ member under foreign

include pass in
include gone_still in
theorem retained_spared (claimed : namespaceStillClaimed claims me.ns = true)
    (view : ClaimView) (retained : Retained now gone me.ns view) (stream : StreamSummary)
    (member : stream ∈ listed departing servers)
    (belongs : Named view stream ∧ ¬Under me stream ∨ Under view stream ∧ stream.name ∉ declaredStreams departing.claim) :
    stream.name ∉ deleted departing.snapshot claims now servers := by
  have other := retained_other pass view retained
  obtain ⟨departed, listed, _, viewed, _⟩ := retained
  have names : NamesAdmitted view := view_names _ (pass.admittedGone departed listed) view viewed
  rcases belongs with ⟨⟨own, _, same⟩, outside⟩ | ⟨under, foreign⟩
  · intro taken
    rcases (deleted_iff pass gone_still claimed _ member).mp taken with declared | ⟨_, swept⟩
    · rw [same] at declared
      exact named_kept pass names other own.name declared
    · exact outside swept
  · exact under_kept pass gone_still claimed view names other _ member under foreign

end Pass

section Theorem

variable (now : Nat) (claims : List ResourceClaim) (gone : List Departure) (departing : Departure) (me : ClaimView)
    (servers : String → Option (List StreamSummary))

def NeighboursSpared : Prop :=
  ∀ view, ((∃ claim, Live claims me.ns claim view) ∨ Retained now gone me.ns view) →
    ∀ stream ∈ listed departing servers, Named view stream ∨ Under view stream →
      stream.name ∉ deleted departing.snapshot claims now servers

theorem attributed_streams_spared (pass : Reclaims now claims gone departing me (listed departing servers)) :
    (∀ claim view, Live claims me.ns claim view → ∀ stream ∈ listed departing servers,
      (stream.name ∈ declaredStreams claim ∨ Provisioned view stream ∨
        Under view stream ∧ stream.name ∉ declaredStreams departing.claim) →
      stream.name ∉ deleted departing.snapshot claims now servers) ∧
    (namespaceStillClaimed claims me.ns = true → ∀ view, Retained now gone me.ns view → ∀ stream ∈ listed departing servers,
        (Named view stream ∧ ¬Under me stream ∨ Under view stream ∧ stream.name ∉ declaredStreams departing.claim) →
        stream.name ∉ deleted departing.snapshot claims now servers) := by
  cases again : recovered departing.snapshot claims with
  | true =>
    rw [deleted, recovered_deletes_nothing departing.snapshot claims now servers again]
    exact ⟨fun _ _ _ _ _ _ => not_mem_nil, fun _ _ _ _ _ _ => not_mem_nil⟩
  | false =>
    constructor
    · intro claim view live stream member belongs
      exact live_spared pass again claim view live stream member belongs
    · intro claimed view retained stream member belongs
      exact retained_spared pass again claimed view retained stream member belongs

end Theorem

-- The indexer collects the feeder's orders, and is gone; the feeder is live.
def ordersNeed : JetStreamNeed :=
  { streamsKey := some [{ name := "orders", subjects := ["feeder.orders.>"], maxBytes := "1Gi" }] }

def liveClaims : List ResourceClaim := [jetstreamClaim "shop" "feeder" blocksNeed]

def indexerGone : Departure :=
  { claim := jetstreamClaim "shop" "indexer" ordersNeed, configNs := some "nats-system", deletion := 0 }

def ordersView : ClaimView := ⟨"shop", "indexer", false, [⟨"orders", ["feeder.orders.>"], false⟩], []⟩

def ordersStream : StreamSummary := ⟨"indexer_orders", ["feeder.orders.>"]⟩

def blocksStream : StreamSummary := ⟨"feeder_blocks", ["feeder.blocks.>"]⟩

def natsServers (ns : String) : Option (List StreamSummary) :=
  if ns = "nats-system" then some [blocksStream, ordersStream] else none

theorem indexer_reclaims :
    Reclaims gracePeriod liveClaims [indexerGone] indexerGone ordersView (listed indexerGone natsServers) where
  admitted := by
    intro claim member
    rw [mem_singleton.mp member]
    exact feeder_admitted
  admittedGone := by
    intro departed member
    rw [mem_singleton.mp member]
    exact jetstream_claim_admitted "shop" (by decide)
  keyed := by
    intro first member second other _
    rw [mem_singleton.mp member, mem_singleton.mp other]
  member := mem_singleton.mpr rfl
  viewed := by decide
  expired := by
    unfold Departure.Expired
    decide
  distinct := by decide

theorem feeder_live : Live liveClaims ordersView.ns (jetstreamClaim "shop" "feeder" blocksNeed) feederView :=
  ⟨mem_singleton.mpr rfl, rfl, by decide, rfl⟩

theorem feeder_blocks_spared : "feeder_blocks" ∉ deleted indexerGone.snapshot liveClaims gracePeriod natsServers := by
  apply (attributed_streams_spared gracePeriod liveClaims [indexerGone] indexerGone ordersView natsServers
    indexer_reclaims).1 (jetstreamClaim "shop" "feeder" blocksNeed) feederView feeder_live blocksStream
  · decide
  · left
    decide

theorem fan_in_reclaimed : Reclaims gracePeriod liveClaims [indexerGone] indexerGone ordersView (listed indexerGone natsServers) ∧
      ¬NeighboursSpared gracePeriod liveClaims [indexerGone] indexerGone ordersView natsServers := by
  refine ⟨indexer_reclaims, ?_⟩
  intro spared
  apply spared feederView (.inl ⟨_, feeder_live⟩) ordersStream
  · decide
  · right
    unfold Under
    decide
  · decide

end AppRafter.Nats
