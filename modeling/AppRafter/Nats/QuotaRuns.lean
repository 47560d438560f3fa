import Mathlib.Logic.Function.Basic
import AppRafter.Lib.System
import AppRafter.Nats.Durables
import AppRafter.Nats.Quota

set_option autoImplicit false

namespace AppRafter.Nats

open Lib Application List Option

-- What each open pass observed, and the claims whose Stream objects await NACK.
structure Account where
  streams : List ObservedStream
  passes : String → Option (List ObservedStream) := fun _ => none
  applied : List SizedView := []

inductive AccountAction where
  | observe (me : SizedView)
  | create (me : SizedView) (stream : SizedStream)
  | finish (me : SizedView)
  | settle (me : SizedView) (stream : SizedStream)
  | appear (stream : ObservedStream)
  | remove (name : String)

section Runs

variable (peers : List SizedView) (ceiling : UInt64)

def blocked (observed : List ObservedStream) (me : SizedView) : List String := (quotaVerdict observed me peers ceiling).blocked

-- A stream is created with its declared bytes, where it does not exist.
def createStream (account : Account) (me : SizedView) (stream : SizedStream) : Option Account :=
  if stream ∈ me.streams ∧ standing account.streams (natsStreamName me.app stream.name) = false then
    (quantityBytes stream.maxBytes).map fun bytes =>
      { account with streams := account.streams ++ [⟨natsStreamName me.app stream.name, bytes⟩] }
  else none

-- A pass observes once and creates what it let through at any later time.
def accountStep (account : Account) : AccountAction → Option Account
  | .observe me =>
    if me ∈ peers ∧ account.passes me.app = none then
      some { account with passes := Function.update account.passes me.app (some account.streams) }
    else none
  | .create me stream =>
    match account.passes me.app with
    | some observed =>
      if me ∈ peers ∧ stream.name ∉ blocked peers ceiling observed me then createStream account me stream else none
    | none => none
  | .finish me =>
    match account.passes me.app with
    | some observed =>
      some { account with
          passes := Function.update account.passes me.app none
          applied := if me ∈ peers ∧ blocked peers ceiling observed me = [] then me :: account.applied else account.applied }
    | none => none
  | .settle me stream => if me ∈ account.applied then createStream account me stream else none
  | .appear stream =>
    if declaredName peers stream.name then none else some { account with streams := account.streams ++ [stream] }
  | .remove name => some { account with streams := account.streams.filter fun stream => stream.name != name }

def declaredHeld (streams : List ObservedStream) : Nat :=
  total entryBytes ((declaredByComposedName peers).entries.filter fun entry => standing streams entry.1)

def accountSystem : System Account AccountAction where
  initial account := account.passes = (fun _ => none) ∧ account.applied = [] ∧
    declaredHeld peers account.streams ≤ budgetBytes peers ceiling
  step := accountStep peers ceiling

end Runs

theorem standing_append (streams : List ObservedStream) (stream : ObservedStream) (name : String) :
    standing (streams ++ [stream]) name = true ↔ standing streams name = true ∨ stream.name = name := by
  simp [standing]

theorem standing_filter {streams : List ObservedStream} {gone name : String}
    (stays : standing (streams.filter fun stream => stream.name != gone) name = true) : standing streams name = true := by
  obtain ⟨stream, kept, named⟩ := any_eq_true.mp stays
  exact any_eq_true.mpr ⟨stream, (mem_filter.mp kept).1, named⟩

theorem create_stream_cases {account after : Account} {me : SizedView} {stream : SizedStream}
    (created : createStream account me stream = some after) :
    stream ∈ me.streams ∧ ∃ bytes,
      after = { account with streams := account.streams ++ [⟨natsStreamName me.app stream.name, bytes⟩] } := by
  unfold createStream at created
  by_cases fresh : stream ∈ me.streams ∧ standing account.streams (natsStreamName me.app stream.name) = false
  · rw [if_pos fresh] at created
    obtain ⟨bytes, _, rfl⟩ := map_eq_some_iff.mp created
    exact ⟨fresh.1, bytes, rfl⟩
  · rw [if_neg fresh] at created
    cases created

theorem updated_pass {passes : String → Option (List ObservedStream)} {app other : String}
    {pass : Option (List ObservedStream)} {observed : List ObservedStream}
    (running : Function.update passes app pass other = some observed) : pass = some observed ∨ passes other = some observed := by
  by_cases same : other = app
  · rw [same, Function.update_self] at running
    exact .inl running
  · rw [Function.update_of_ne same] at running
    exact .inr running

section Declared

variable (sizeBytes : Dict UInt64) (ns : String) {claims : List ResourceClaim}
  (admitted : ∀ claim ∈ claims, claim.Admitted) (keyed : Keyed claims)

include admitted keyed

theorem sized_peers_apps {first second : SizedView} (firstPeer : first ∈ namespaceViews sizeBytes ns claims)
    (secondPeer : second ∈ namespaceViews sizeBytes ns claims) (same : first.app = second.app) : first = second := by
  obtain ⟨firstNs, firstClaim, firstListed, firstViewed⟩ := (mem_namespace_views sizeBytes ns claims first).mp firstPeer
  obtain ⟨secondNs, secondClaim, secondListed, secondViewed⟩ := (mem_namespace_views sizeBytes ns claims second).mp secondPeer
  have firstName := viewed_name (admitted _ firstListed) (sized_view_cases firstViewed).1
  have secondName := viewed_name (admitted _ secondListed) (sized_view_cases secondViewed).1
  have claims_same : firstClaim = secondClaim := by
    apply keyed firstClaim firstListed secondClaim secondListed
    · exact (firstName.1.trans firstNs).trans (secondName.1.trans secondNs).symm
    · exact firstName.2.trans ((congrArg (claimName · "jetstream" none) same).trans secondName.2.symm)
  rw [claims_same, secondViewed] at firstViewed
  exact (some.inj firstViewed).symm

omit keyed in
theorem namespace_view_names {sized : SizedView} (member : sized ∈ namespaceViews sizeBytes ns claims) :
    NamesAdmitted sized.view ∧ (sized.streams.map (·.name)).Nodup := by
  obtain ⟨_, claim, listed, viewed⟩ := (mem_namespace_views sizeBytes ns claims sized).mp member
  exact ⟨view_names claim (admitted claim listed) _ (sized_view_cases viewed).1,
    view_streams_distinct (admitted claim listed) viewed⟩

theorem mem_declared (entry : Declaration) : entry ∈ (declaredByComposedName (namespaceViews sizeBytes ns claims)).entries ↔
      ∃ me ∈ namespaceViews sizeBytes ns claims, ∃ stream ∈ me.streams,
        entry = (natsStreamName me.app stream.name, me.app, stream) := by
  have listed : ∀ entry, entry ∈ declarations (namespaceViews sizeBytes ns claims) ↔
      ∃ me ∈ namespaceViews sizeBytes ns claims, ∃ stream ∈ me.streams,
        entry = (natsStreamName me.app stream.name, me.app, stream) := by
    intro entry
    simp only [declarations, List.mem_flatMap, List.mem_map, eq_comm]
  rw [declaredByComposedName, Dict.mem_of_list, listed]
  intro first member second other same
  obtain ⟨me, peer, stream, own, rfl⟩ := (listed first).mp member
  obtain ⟨you, neighbour, theirs, declared, rfl⟩ := (listed second).mp other
  have mine := namespace_view_names _ ns admitted peer
  have yours := namespace_view_names _ ns admitted neighbour
  obtain ⟨apps, names⟩ := composed_injective mine.1.app yours.1.app same
  obtain rfl := sized_peers_apps _ ns admitted keyed peer neighbour apps
  rw [inj_on_of_nodup_map mine.2 own declared names]

-- The claims of one namespace are told apart by their applications.
structure PeersApart (peers : List SizedView) : Prop where
  apps : ∀ first ∈ peers, ∀ second ∈ peers, first.app = second.app → first = second
  distinct : ∀ me ∈ peers, (me.streams.map (·.name)).Nodup
  declared : ∀ entry, entry ∈ (declaredByComposedName peers).entries ↔
    ∃ me ∈ peers, ∃ stream ∈ me.streams, entry = (natsStreamName me.app stream.name, me.app, stream)

theorem peers_apart : PeersApart (namespaceViews sizeBytes ns claims) where
  apps := fun first member second other => sized_peers_apps _ ns admitted keyed member other
  distinct := fun me member => (namespace_view_names _ ns admitted member).2
  declared := mem_declared sizeBytes ns admitted keyed

end Declared

section Safety

variable (peers : List SizedView) (ceiling : UInt64)

-- Every declaration of the others, what a pass observed and what it takes.
def countedBy (observed : List ObservedStream) (me : SizedView) (entry : Declaration) : Bool :=
  entry.2.1 != me.app || standing observed entry.1 || decide (entry.2.2 ∈ (verdictFit observed me peers ceiling).taken)

-- The declarations of which the account may come to hold the streams all fit.
structure Covered (account : Account) (within : Declaration → Bool) : Prop where
  streams : ∀ entry ∈ (declaredByComposedName peers).entries, standing account.streams entry.1 = true →
    within entry = true
  passes : ∀ me ∈ peers, ∀ observed, account.passes me.app = some observed →
    ∀ entry ∈ (declaredByComposedName peers).entries, entry.2.1 = me.app → standing observed entry.1 = true →
      within entry = true
  own : ∀ me ∈ peers, me ∉ account.applied → ∀ observed, account.passes me.app = some observed →
    ∀ entry ∈ (declaredByComposedName peers).entries, entry.2.1 = me.app → standing account.streams entry.1 = true →
      standing observed entry.1 = true ∨ entry.2.2 ∈ (verdictFit observed me peers ceiling).taken
  applied : ∀ me ∈ account.applied, me ∈ peers ∧
    ∀ entry ∈ (declaredByComposedName peers).entries, entry.2.1 = me.app → within entry = true
  bytes : total entryBytes ((declaredByComposedName peers).entries.filter within) ≤ budgetBytes peers ceiling

variable {peers ceiling} {account : Account} {within : Declaration → Bool} {observed : List ObservedStream} {me : SizedView}

theorem covered_held (covered : Covered peers ceiling account within) :
    declaredHeld peers account.streams ≤ budgetBytes peers ceiling :=
  Nat.le_trans (total_filter_le entryBytes _ _ _ covered.streams) covered.bytes

variable (apart : PeersApart peers)

include apart

theorem counted_bytes (takes : (verdictFit observed me peers ceiling).taken ≠ []) :
    total entryBytes ((declaredByComposedName peers).entries.filter (countedBy peers ceiling observed me)) +
      undeclaredBytes observed peers ≤ budgetBytes peers ceiling := by
  have fits := first_fit_within _ _ _ takes
  have parted := total_filter entryBytes
    ((declaredByComposedName peers).entries.filter (countedBy peers ceiling observed me)) fun entry => standing observed entry.1
  have rest := total_filter entryBytes
    (((declaredByComposedName peers).entries.filter (countedBy peers ceiling observed me)).filter fun entry =>
      !standing observed entry.1) fun entry => entry.2.1 != me.app
  rw [List.filter_filter, List.filter_filter] at parted
  rw [List.filter_filter, List.filter_filter, List.filter_filter] at rest
  have existing := total_filter_le entryBytes (declaredByComposedName peers).entries
    (fun entry => standing observed entry.1 && countedBy peers ceiling observed me entry)
    (fun entry => standing observed entry.1) fun entry _ both => (Bool.and_eq_true_iff.mp both).1
  have neighbours := total_filter_le entryBytes (declaredByComposedName peers).entries
    (fun entry => entry.2.1 != me.app && (!standing observed entry.1 && countedBy peers ceiling observed me entry))
    (fun entry => !standing observed entry.1 && entry.2.1 != me.app) (by
      intro entry _ both
      obtain ⟨other, more⟩ := Bool.and_eq_true_iff.mp both
      rw [(Bool.and_eq_true_iff.mp more).1, other]
      rfl)
  have taken := total_subset entryBytes ((declaredByComposedName peers).entries.filter fun entry =>
      !entry.2.1 != me.app && (!standing observed entry.1 && countedBy peers ceiling observed me entry))
    ((verdictFit observed me peers ceiling).taken.map fun stream => (natsStreamName me.app stream.name, me.app, stream))
    ((Dict.entries_nodup _).filter _) (by
      intro entry member
      obtain ⟨listed, counted⟩ := mem_filter.mp member
      obtain ⟨you, peer, stream, own, rfl⟩ := (apart.declared entry).mp listed
      have same : you.app = me.app := by
        by_contra other
        simp [other] at counted
      have took : stream ∈ (verdictFit observed me peers ceiling).taken := by
        by_contra left
        simp [countedBy, same, left] at counted
      exact mem_map.mpr ⟨stream, took, by rw [same]⟩)
  rw [total_map] at taken
  change _ ≤ total streamBytes (verdictFit observed me peers ceiling).taken at taken
  change existingBytes observed peers + neighbourBytes observed me peers +
    total streamBytes (verdictFit observed me peers ceiling).taken ≤ budgetBytes peers ceiling at fits
  rw [existingBytes, neighbourBytes] at fits
  omega

theorem covered_accept (covered : Covered peers ceiling account within) (peer : me ∈ peers) (unapplied : me ∉ account.applied)
    (running : account.passes me.app = some observed) (takes : (verdictFit observed me peers ceiling).taken ≠ []) :
    Covered peers ceiling account (countedBy peers ceiling observed me) where
  streams := by
    intro entry listed stands
    by_cases mine : entry.2.1 = me.app
    · rcases covered.own me peer unapplied observed running entry listed mine stands with seen | took
      · simp [countedBy, seen]
      · simp [countedBy, took]
    · simp [countedBy, mine]
  passes := by
    intro you neighbour other runs entry listed theirs seen
    by_cases same : you.app = me.app
    · rw [same, running] at runs
      cases runs
      simp [countedBy, seen]
    · simp [countedBy, theirs, same]
  own := covered.own
  applied := by
    intro you left
    obtain ⟨neighbour, _⟩ := covered.applied you left
    refine ⟨neighbour, ?_⟩
    intro entry listed theirs
    have other : you.app ≠ me.app := fun same => unapplied (apart.apps you neighbour me peer same ▸ left)
    simp [countedBy, theirs, other]
  bytes := Nat.le_trans (Nat.le_add_right _ _) (counted_bytes apart takes)

theorem covered_create {after : Account}
    (covered : Covered peers ceiling account within) (peer : me ∈ peers) {stream : SizedStream}
    (created : createStream account me stream = some after)
    (counted : within (natsStreamName me.app stream.name, me.app, stream) = true)
    (known : me ∉ account.applied → ∀ observed, account.passes me.app = some observed →
      standing observed (natsStreamName me.app stream.name) = true ∨
        stream ∈ (verdictFit observed me peers ceiling).taken) :
    Covered peers ceiling after within := by
  obtain ⟨declared, bytes, rfl⟩ := create_stream_cases created
  have own : (natsStreamName me.app stream.name, me.app, stream) ∈ (declaredByComposedName peers).entries :=
    (apart.declared _).mpr ⟨me, peer, stream, declared, rfl⟩
  refine
    { streams := ?_
      passes := covered.passes
      own := ?_
      applied := covered.applied
      bytes := covered.bytes }
  · intro entry listed stands
    rcases (standing_append _ _ _).mp stands with before | same
    · exact covered.streams entry listed before
    · exact Dict.entry_unique _ _ entry own listed same ▸ counted
  · intro you neighbour unapplied observed running entry listed theirs stands
    rcases (standing_append _ _ _).mp stands with before | same
    · exact covered.own you neighbour unapplied observed running entry listed theirs before
    · obtain rfl := Dict.entry_unique _ _ entry own listed same
      obtain rfl := apart.apps me peer you neighbour theirs
      exact known unapplied observed running

section Steps

variable (bounded : budgetBytes peers ceiling < u64Max) {account after : Account} {within : Declaration → Bool}
  (covered : Covered peers ceiling account within) (me : SizedView)

include covered

omit apart in
theorem covered_observe (taken : accountStep peers ceiling account (.observe me) = some after) :
    Covered peers ceiling after within := by
  by_cases free : me ∈ peers ∧ account.passes me.app = none
  · rw [accountStep, if_pos free] at taken
    cases taken
    refine
      { streams := covered.streams
        passes := ?_
        own := ?_
        applied := covered.applied
        bytes := covered.bytes }
    · intro you neighbour observed running entry listed theirs seen
      rcases updated_pass running with opened | before
      · cases opened
        exact covered.streams entry listed seen
      · exact covered.passes you neighbour observed before entry listed theirs seen
    · intro you neighbour unapplied observed running entry listed theirs stands
      rcases updated_pass running with opened | before
      · cases opened
        exact .inl stands
      · exact covered.own you neighbour unapplied observed before entry listed theirs stands
  · rw [accountStep, if_neg free] at taken
    cases taken

-- The streams of a declared name stand only where they did.
omit apart in
theorem covered_streams {streams : List ObservedStream}
    (fewer : ∀ entry ∈ (declaredByComposedName peers).entries, standing streams entry.1 = true →
      standing account.streams entry.1 = true) : Covered peers ceiling { account with streams := streams } within where
  streams := fun entry listed stands => covered.streams entry listed (fewer entry listed stands)
  passes := covered.passes
  own := fun you neighbour unapplied observed running entry listed theirs stands =>
    covered.own you neighbour unapplied observed running entry listed theirs (fewer entry listed stands)
  applied := covered.applied
  bytes := covered.bytes

-- A pass that ends may leave more claims behind as applied.
omit apart in
theorem covered_ended {applied : List SizedView} (kept : ∀ you ∈ account.applied, you ∈ applied)
    (whole : ∀ you ∈ applied, you ∈ peers ∧
      ∀ entry ∈ (declaredByComposedName peers).entries, entry.2.1 = you.app → within entry = true) :
    Covered peers ceiling { account with passes := Function.update account.passes me.app none, applied := applied } within := by
  have before (you : SizedView) (seen : List ObservedStream)
      (runs : Function.update account.passes me.app none you.app = some seen) : account.passes you.app = some seen := by
    rcases updated_pass runs with none | before
    · cases none
    · exact before
  exact
    { streams := covered.streams
      passes := fun you neighbour seen runs => covered.passes you neighbour seen (before you seen runs)
      own := fun you neighbour unapplied seen runs =>
        covered.own you neighbour (fun member => unapplied (kept you member)) seen (before you seen runs)
      applied := whole
      bytes := covered.bytes }

variable {stream : SizedStream} {observed : List ObservedStream}

omit covered in
theorem taken_unless_blocked (bounded : budgetBytes peers ceiling < u64Max) (peer : me ∈ peers) (declared : stream ∈ me.streams)
    (unseen : ¬standing observed (natsStreamName me.app stream.name) = true)
    (allowed : stream.name ∉ blocked peers ceiling observed me) : stream ∈ (verdictFit observed me peers ceiling).taken := by
  have waiting : stream ∈ pending observed me := mem_filter.mpr ⟨declared, by simpa using unseen⟩
  rcases (first_fit_cases streamBytes _ _ _ stream).mp waiting with took | refused
  · exact took
  · exact absurd ((mem_blocked _ me peers _ (apart.distinct me peer) bounded waiting).mpr refused) allowed

include bounded

theorem pass_create (peer : me ∈ peers)
    (running : account.passes me.app = some observed) (allowed : stream.name ∉ blocked peers ceiling observed me)
    (created : createStream account me stream = some after) : ∃ within, Covered peers ceiling after within := by
  obtain ⟨declared, _⟩ := create_stream_cases created
  have own : (natsStreamName me.app stream.name, me.app, stream) ∈ (declaredByComposedName peers).entries :=
    (apart.declared _).mpr ⟨me, peer, stream, declared, rfl⟩
  by_cases applied : me ∈ account.applied
  · exact ⟨within, covered_create apart covered peer created
      ((covered.applied me applied).2 _ own rfl) fun unapplied => absurd applied unapplied⟩
  · by_cases seen : standing observed (natsStreamName me.app stream.name) = true
    · refine ⟨within, covered_create apart covered peer created (covered.passes me peer observed running _ own rfl seen) ?_⟩
      intro _ other runs
      obtain rfl := some.inj (running.symm.trans runs)
      exact .inl seen
    · have took := taken_unless_blocked apart me bounded peer declared seen allowed
      have accepted := covered_accept apart covered peer applied running (ne_nil_of_mem took)
      refine ⟨_, covered_create apart accepted peer created ?_ ?_⟩
      · simp [countedBy, took]
      · intro _ other runs
        obtain rfl := some.inj (running.symm.trans runs)
        exact .inr took

theorem pass_applies (peer : me ∈ peers) (running : account.passes me.app = some observed)
    (nothing : blocked peers ceiling observed me = []) :
    ∃ within, Covered peers ceiling account within ∧
      ∀ entry ∈ (declaredByComposedName peers).entries, entry.2.1 = me.app → within entry = true := by
  by_cases applied : me ∈ account.applied
  · exact ⟨within, covered, (covered.applied me applied).2⟩
  · have each : ∀ entry ∈ (declaredByComposedName peers).entries, entry.2.1 = me.app →
        standing observed entry.1 = true ∨ entry.2.2 ∈ (verdictFit observed me peers ceiling).taken := by
      intro entry listed mine
      obtain ⟨you, neighbour, stream, declared, rfl⟩ := (apart.declared entry).mp listed
      obtain rfl := apart.apps you neighbour me peer mine
      by_cases seen : standing observed (natsStreamName you.app stream.name) = true
      · exact .inl seen
      · have allowed : stream.name ∉ blocked peers ceiling observed you := by
          rw [nothing]
          exact not_mem_nil
        exact .inr (taken_unless_blocked apart you bounded peer declared seen allowed)
    by_cases takes : (verdictFit observed me peers ceiling).taken = []
    · refine ⟨within, covered, ?_⟩
      intro entry listed mine
      rcases each entry listed mine with seen | took
      · exact covered.passes me peer observed running entry listed mine seen
      · rw [takes] at took
        cases took
    · refine ⟨_, covered_accept apart covered peer applied running takes, ?_⟩
      intro entry listed mine
      rcases each entry listed mine with seen | took
      · simp [countedBy, seen]
      · simp [countedBy, took]

theorem covered_finish (taken : accountStep peers ceiling account (.finish me) = some after) :
    ∃ within, Covered peers ceiling after within := by
  cases running : account.passes me.app with
  | none => simp [accountStep, running] at taken
  | some observed =>
    simp only [accountStep, running] at taken
    cases taken
    by_cases clear : me ∈ peers ∧ blocked peers ceiling observed me = []
    · rw [if_pos clear]
      obtain ⟨wide, holds, mine⟩ := pass_applies apart bounded covered me clear.1 running clear.2
      refine ⟨wide, covered_ended holds me (fun you member => mem_cons_of_mem _ member) ?_⟩
      exact forall_mem_cons.mpr ⟨⟨clear.1, mine⟩, holds.applied⟩
    · rw [if_neg clear]
      exact ⟨within, covered_ended covered me (fun _ => id) covered.applied⟩

theorem covered_step {action : AccountAction} (taken : accountStep peers ceiling account action = some after) :
    ∃ within, Covered peers ceiling after within := by
  cases action with
  | observe me => exact ⟨within, covered_observe covered me taken⟩
  | create me stream =>
    cases running : account.passes me.app with
    | none => simp [accountStep, running] at taken
    | some observed =>
      simp only [accountStep, running] at taken
      by_cases allowed : me ∈ peers ∧ stream.name ∉ blocked peers ceiling observed me
      · rw [if_pos allowed] at taken
        exact pass_create apart bounded covered me allowed.1 running
          allowed.2 taken
      · rw [if_neg allowed] at taken
        cases taken
  | finish me => exact covered_finish apart bounded covered me taken
  | settle me stream =>
    by_cases applied : me ∈ account.applied
    · rw [accountStep, if_pos applied] at taken
      obtain ⟨peer, mine⟩ := covered.applied me applied
      obtain ⟨declared, _⟩ := create_stream_cases taken
      exact ⟨within, covered_create apart covered peer taken
        (mine _ ((apart.declared _).mpr ⟨me, peer, stream, declared, rfl⟩) rfl) fun unapplied => absurd applied unapplied⟩
    · rw [accountStep, if_neg applied] at taken
      cases taken
  | appear stream =>
    by_cases declared : declaredName peers stream.name = true
    · rw [accountStep, if_pos declared] at taken
      cases taken
    · rw [accountStep, if_neg declared] at taken
      cases taken
      refine ⟨within, covered_streams covered ?_⟩
      intro entry listed stands
      rcases (standing_append _ _ _).mp stands with before | same
      · exact before
      · refine absurd ?_ declared
        rw [declaredName, contains_iff_mem, same]
        exact mem_map_of_mem listed
  | remove name =>
    cases taken
    exact ⟨within, covered_streams covered fun _ _ stands => standing_filter stands⟩

end Steps

end Safety

-- But where the budget is the bound at which the check's sums saturate.
theorem quota_safe (sizeBytes : Dict UInt64) (ns : String) (claims : List ResourceClaim)
    (admitted : ∀ claim ∈ claims, claim.Admitted) (keyed : Keyed claims) (ceiling : UInt64) (account : Account)
    (reachable : (accountSystem (namespaceViews sizeBytes ns claims) ceiling).Reachable account) :
    budgetBytes (namespaceViews sizeBytes ns claims) ceiling = u64Max ∨
      declaredHeld (namespaceViews sizeBytes ns claims) account.streams ≤
        budgetBytes (namespaceViews sizeBytes ns claims) ceiling := by
  have apart := peers_apart sizeBytes ns admitted keyed
  by_cases bounded : budgetBytes (namespaceViews sizeBytes ns claims) ceiling < u64Max
  · right
    have covered : ∃ within, Covered (namespaceViews sizeBytes ns claims) ceiling account within := by
      apply System.invariant _ (fun account => ∃ within, Covered _ ceiling account within) _ _ account reachable
      · rintro start ⟨idle, nothing, held⟩
        refine ⟨fun entry => standing start.streams entry.1, ?_⟩
        exact
          { streams := fun _ _ stands => stands
            passes := fun _ _ observed running => by rw [idle] at running; cases running
            own := fun _ _ _ observed running => by rw [idle] at running; cases running
            applied := fun _ member => by rw [nothing] at member; cases member
            bytes := held }
      · rintro before action after ⟨within, holds⟩ taken
        exact covered_step apart bounded holds taken
    obtain ⟨within, holds⟩ := covered
    exact covered_held holds
  · exact .inl (Nat.le_antisymm (u64_le _) (Nat.not_lt.mp bounded))

theorem reached (peers : List SizedView) (ceiling : UInt64) (actions : List AccountAction) (streams : List ObservedStream)
    (ran : (((accountSystem peers ceiling).run { streams := [] } actions).map (·.streams)) = some streams)
    (nothing : declaredHeld peers [] ≤ budgetBytes peers ceiling) :
    ∃ account, (accountSystem peers ceiling).Reachable account ∧ account.streams = streams := by
  obtain ⟨account, finished, same⟩ := map_eq_some_iff.mp ran
  have start : (accountSystem peers ceiling).Reachable { streams := [] } := .initial _ ⟨rfl, rfl, nothing⟩
  exact ⟨account, System.reachable_run _ _ start _ _ finished, same⟩

def smallLogs : List ResourceClaim :=
  [jetstreamClaim "shop" "cart" (logNeed "cart" "200Mi"), jetstreamClaim "shop" "till" (logNeed "till" "200Mi")]

theorem small_logs_admitted : ∀ claim ∈ smallLogs, claim.Admitted := by
  intro claim member
  rcases mem_pair.mp member with rfl | rfl
  · exact jetstream_claim_admitted "shop" (by decide)
  · exact jetstream_claim_admitted "shop" (by decide)

theorem small_logs_keyed : Keyed smallLogs := by
  unfold Keyed
  decide

theorem small_logs_views : namespaceViews seedSizes "shop" smallLogs =
    [logView "cart" "200Mi" 268435456, logView "till" "200Mi" 268435456] := by
  decide

def bothCreate : List AccountAction :=
  let cart := logView "cart" "200Mi" 268435456
  let till := logView "till" "200Mi" 268435456
  [.observe cart, .observe till, .create cart ⟨⟨"log", ["cart.log.>"], false⟩, "200Mi"⟩,
    .create till ⟨⟨"log", ["till.log.>"], false⟩, "200Mi"⟩]

theorem both_created_within :
    ∃ account : Account, account.streams = [⟨"cart_log", 209715200⟩, ⟨"till_log", 209715200⟩] ∧
      (budgetBytes (namespaceViews seedSizes "shop" smallLogs) seedCeiling = u64Max ∨
        declaredHeld (namespaceViews seedSizes "shop" smallLogs) account.streams ≤
          budgetBytes (namespaceViews seedSizes "shop" smallLogs) seedCeiling) := by
  obtain ⟨account, reachable, streams⟩ := reached (namespaceViews seedSizes "shop" smallLogs) seedCeiling bothCreate
    [⟨"cart_log", 209715200⟩, ⟨"till_log", 209715200⟩] (by rw [small_logs_views]; decide +kernel)
    (by rw [small_logs_views]; decide +kernel)
  exact ⟨account, streams, quota_safe seedSizes "shop" smallLogs small_logs_admitted small_logs_keyed seedCeiling account
    reachable⟩

def hugeNeed : JetStreamNeed :=
  { streamsKey := some (["a", "b", "c"].map fun name => { name := name, subjects := ["cart." ++ name], maxBytes := "8192Pi" }) }

def hugeClaims : List ResourceClaim := [jetstreamClaim "shop" "cart" hugeNeed]

def wholeSizes : Dict UInt64 where
  entries := [("small", 18446744073709551615)]

def hugeStream (name : String) : SizedStream := ⟨⟨name, ["cart." ++ name], false⟩, "8192Pi"⟩

def hugeView : SizedView :=
  { logView "cart" "" 18446744073709551615 with streams := [hugeStream "a", hugeStream "b", hugeStream "c"] }

-- At the largest budget the saturated sum never exceeds it, and nothing is refused.
theorem saturated_budget_exceeded :
    ∃ (sizeBytes : Dict UInt64) (ns : String) (claims : List ResourceClaim) (ceiling : UInt64) (account : Account),
      (∀ claim ∈ claims, claim.Admitted) ∧ Keyed claims ∧
      (accountSystem (namespaceViews sizeBytes ns claims) ceiling).Reachable account ∧
      budgetBytes (namespaceViews sizeBytes ns claims) ceiling <
        declaredHeld (namespaceViews sizeBytes ns claims) account.streams := by
  have viewed : namespaceViews wholeSizes "shop" hugeClaims = [hugeView] := by decide
  obtain ⟨account, reachable, streams⟩ := reached [hugeView] 18446744073709551615
    [.observe hugeView, .create hugeView (hugeStream "a"), .create hugeView (hugeStream "b"), .create hugeView (hugeStream "c")]
    [⟨"cart_a", 9223372036854775807⟩, ⟨"cart_b", 9223372036854775807⟩, ⟨"cart_c", 9223372036854775807⟩]
    (by decide +kernel) (by decide +kernel)
  refine ⟨wholeSizes, "shop", hugeClaims, 18446744073709551615, account, ?_, ?_, ?_, ?_⟩
  · intro claim member
    obtain rfl := mem_singleton.mp member
    exact jetstream_claim_admitted "shop" (by decide)
  · unfold Keyed
    decide
  · rw [viewed]
    exact reachable
  · rw [viewed, streams]
    decide +kernel

end AppRafter.Nats
