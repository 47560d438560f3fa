import AppRafter.Provisioner.Sweep

set_option autoImplicit false

namespace AppRafter.Provisioner

open Lib List Option

deriving instance DecidableEq for Target

def Decision.unreferenced : Decision → Bool
  | .veto _ => false
  | .dwell => true
  | .reap => true

variable (pass : SweepPass)

-- The pass's four, its arm's instances, and a cluster's volumes around the strip.
def Consulted (target : Target) (uid : String) : Prop :=
  pass.live.Complete ∧ pass.retained.Complete ∧ pass.shared.Complete ∧ pass.providers.Complete ∧ match target with
    | .dragonfly _ _ _ => (pass.dragonflies (redisNamespaceFrom pass.providers.items)).Complete
    | .cnpg _ =>
      (pass.clusters (cnpgNamespaceFrom pass.providers.items)).Complete ∧ (pass.volumes uid).before.Complete ∧
        (pass.volumes uid).after.Complete

-- It was judged unreferenced the dwell before, and at every judgement since.
def Dwelt (dwell : Nat) (uid : String) (now : Nat) (earlier : List Judgement) : Prop :=
  ∃ since first older, earlier = since ++ first :: older ∧ first.uid = some uid ∧
    first.decision.unreferenced = true ∧ first.pass.now + dwell ≤ now ∧
    ∀ other ∈ since, other.uid = some uid → other.decision.unreferenced = true

def Warranted (dwell : Nat) (earlier : List Judgement) (deletion : Judgement) : Prop :=
  deletion.decision = .reap ∧ ∃ uid, deletion.uid = some uid ∧ Consulted deletion.pass deletion.target uid ∧
    Dwelt dwell uid deletion.pass.now earlier

def lastJudged (log : List Judgement) (key : String) : Option Judgement :=
  log.find? fun judgement => dwellKey judgement.target == key

def SweepPass.dragonflyObjects : ListReply BackendObject :=
  pass.dragonflies (redisNamespaceFrom pass.providers.items)

def SweepPass.clusterObjects : ListReply BackendObject :=
  pass.clusters (cnpgNamespaceFrom pass.providers.items)

def SweepPass.dragonflyCandidates : List Candidate := pass.dragonflyObjects.items.filterMap dragonflyCandidate

def SweepPass.cnpgCandidates : List Candidate :=
  pass.clusterObjects.items.filterMap (cnpgCandidate (providerIndex pass.providers.items))

def SweepPass.candidates : List Candidate := pass.dragonflyCandidates ++ pass.cnpgCandidates

-- A name stands once in a list, and a uid is of one object for ever.
def SweepPass.served (identity : String → Target) (pass : SweepPass) : Bool :=
  decide (pass.dragonflyObjects.items.map BackendObject.name).Nodup &&
    decide (pass.clusterObjects.items.map BackendObject.name).Nodup &&
    pass.candidates.all fun candidate => candidate.uid.all fun uid => identity uid == candidate.target

structure SweepState where
  sweeper : Sweeper
  time : Nat

inductive SweepAction where
  | sweep (pass : SweepPass)
  | restart

def idleSweeper : Sweeper := { clocks := fun _ => none, log := [] }

def sweeps (dwell : Nat) (identity : String → Target) : System SweepState SweepAction :=
  { initial := fun s => s = { sweeper := idleSweeper, time := 0 }
    step := fun s action =>
      match action with
      | .sweep pass =>
        if s.time ≤ pass.now ∧ pass.served identity = true then
          some { sweeper := sweep dwell pass s.sweeper, time := pass.now }
        else none
      | .restart => some { s with sweeper := { s.sweeper with clocks := fun _ => none } } }

-- A running clock is of the object now listed under its key.
def continues (sweeper : Sweeper) (candidate : Candidate) : Bool :=
  match sweeper.clocks (dwellKey candidate.target) with
  | none => true
  | some _ => (lastJudged sweeper.log (dwellKey candidate.target)).any fun last => last.uid == candidate.uid

def undisturbed (s : SweepState) : SweepAction → Bool
  | .sweep pass => (pass.shared.list.all fun list => !listTruncated list) && pass.candidates.all (continues s.sweeper)
  | .restart => true

theorem dwell_key_inj {a b : Target} (same : dwellKey a = dwellKey b) : a = b := by
  have spelled := congrArg String.toList same
  simp only [dwellKey, String.toList_append] at spelled
  have cut : ∀ target, '/' ∉ (backendLabel target).toList := by
    intro target
    cases target with
    | dragonfly name cls parsed =>
      cases cls with
      | ephemeral | persistent => simp [backendLabel]
    | cnpg name => simp [backendLabel]
  rw [append_assoc, append_assoc] at spelled
  obtain ⟨labels, names⟩ := Text.first_cut_unique '/' _ _ _ _ (cut a) (cut b) spelled
  have names := String.toList_inj.mp names
  cases a with
  | dragonfly name cls parsed =>
    cases b with
    | dragonfly other kind known =>
      have named : name = other := names
      subst named
      have kinds : cls = kind := some.inj (parsed.symm.trans known)
      subst kinds
      rfl
    | cnpg other => cases cls <;> simp [backendLabel] at labels
  | cnpg name =>
    cases b with
    | dragonfly other kind known => cases kind <;> simp [backendLabel] at labels
    | cnpg other => exact congrArg Target.cnpg names

section Settle

variable (clocks : String → Option Nat) (key : String) (now : Nat) (uid : Option String) (verified : String → Bool)
  (delete : String → DeleteReply) (decision : Decision)

theorem settle_reap : settle clocks key now uid verified delete .reap = { clocks := clocks } ∨
      ∃ named, uid = some named ∧ verified named = true ∧ (settle clocks key now uid verified delete .reap =
            { clocks := Function.update clocks key none, deleted := true } ∨
          settle clocks key now uid verified delete .reap = { clocks := clocks, deleted := true, failed := true }) := by
  simp only [settle]
  split
  · exact .inl rfl
  · rename_i named filtered
    have known : uid = some named := (filter_eq_some_iff.mp filtered).1
    by_cases sure : verified named = true
    · rw [if_pos sure]
      refine .inr ⟨named, known, sure, ?_⟩
      cases delete named with
      | done => exact .inl rfl
      | changed => exact .inl rfl
      | failed => exact .inr rfl
    · rw [if_neg sure]
      exact .inl rfl

theorem settle_other {other : String} (different : other ≠ key) :
    (settle clocks key now uid verified delete decision).clocks other = clocks other := by
  cases decision with
  | veto | dwell => exact Function.update_of_ne different _ _
  | reap =>
    rcases settle_reap clocks key now uid verified delete with kept | ⟨_, _, _, gone | kept⟩
    · rw [kept]
    · rw [gone]
      exact Function.update_of_ne different _ _
    · rw [kept]

theorem settle_own {t : Nat} (running : (settle clocks key now uid verified delete decision).clocks key = some t) :
    decision.unreferenced = true ∧ (clocks key = some t ∨ (clocks key = none ∧ t = now)) := by
  cases decision with
  | veto reason => simp [settle] at running
  | dwell =>
    refine ⟨rfl, ?_⟩
    simp only [settle, Function.update_self, some.injEq] at running
    cases known : clocks key with
    | none => exact .inr ⟨rfl, by simpa [known] using running.symm⟩
    | some since => exact .inl (by simpa [known] using running)
  | reap =>
    refine ⟨rfl, .inl ?_⟩
    rcases settle_reap clocks key now uid verified delete with kept | ⟨_, _, _, gone | kept⟩
    · rwa [kept] at running
    · rw [gone] at running
      simp at running
    · rwa [kept] at running

theorem settle_deleted (deleted : (settle clocks key now uid verified delete decision).deleted = true) :
    decision = .reap ∧ ∃ named, uid = some named ∧ verified named = true := by
  cases decision with
  | veto reason => cases deleted
  | dwell => cases deleted
  | reap =>
    rcases settle_reap clocks key now uid verified delete with kept | ⟨named, known, sure, _⟩
    · rw [kept] at deleted
      cases deleted
    · exact ⟨rfl, named, known, sure⟩

end Settle

-- Every judgement since the clock's start was of this object and found no reference.
def Backed (log : List Judgement) (key : String) (t : Nat) : Prop :=
  ∃ since first older, log = since ++ first :: older ∧ dwellKey first.target = key ∧ first.pass.now = t ∧
    first.decision.unreferenced = true ∧
    ∀ other ∈ since, dwellKey other.target = key → other.uid = first.uid ∧ other.decision.unreferenced = true

structure Sound (dwell : Nat) (identity : String → Target) (time : Nat) (sweeper : Sweeper) : Prop where
  backed : ∀ key t, sweeper.clocks key = some t → Backed sweeper.log key t
  past : ∀ judgement ∈ sweeper.log, judgement.pass.now ≤ time
  named : ∀ judgement ∈ sweeper.log, ∀ uid, judgement.uid = some uid → identity uid = judgement.target
  warranted : ∀ later deletion earlier, sweeper.log = later ++ deletion :: earlier → deletion.deleted = true →
    Warranted dwell earlier deletion

variable {dwell : Nat} {identity : String → Target} {sweeper : Sweeper} {object : BackendObject}
  {candidate : Candidate} {pass : SweepPass}

theorem sound_later {time now : Nat}
    (sound : Sound dwell identity time sweeper) (passed : time ≤ now) : Sound dwell identity now sweeper :=
  { sound with past := fun judgement member => (sound.past judgement member).trans passed }

theorem sound_fewer {time : Nat} {clocks : String → Option Nat} (sound : Sound dwell identity time sweeper)
    (fewer : ∀ key t, clocks key = some t → sweeper.clocks key = some t) :
    Sound dwell identity time { sweeper with clocks := clocks } :=
  { backed := fun key t running => sound.backed key t (fewer key t running)
    past := sound.past
    named := sound.named
    warranted := sound.warranted }

theorem backed_last {log : List Judgement} {key : String} {t : Nat} {last : Judgement} (backed : Backed log key t)
    (found : lastJudged log key = some last) : ∃ since first older, log = since ++ first :: older ∧
      dwellKey first.target = key ∧ first.pass.now = t ∧ first.decision.unreferenced = true ∧ last.uid = first.uid ∧
      ∀ other ∈ since, dwellKey other.target = key → other.uid = first.uid ∧ other.decision.unreferenced = true := by
  obtain ⟨since, first, older, rfl, keyed, instant, free, all⟩ := backed
  refine ⟨since, first, older, rfl, keyed, instant, free, ?_, all⟩
  rw [lastJudged, find?_append] at found
  cases recent : since.find? fun judgement => dwellKey judgement.target == key with
  | none =>
    rw [recent, find?_cons, keyed, beq_self_eq_true] at found
    rw [some.inj found]
  | some other =>
    rw [recent] at found
    have same : other = last := some.inj found
    have named : dwellKey other.target = key := by simpa using find?_some recent
    rw [← same]
    exact (all other (mem_of_find?_eq_some recent) named).1

section Pass

variable (dwell : Nat) (identity : String → Target) (pass : SweepPass) (inputs : SweepInputs) (verified : String → Bool)

variable {candidate : Candidate} {key : String} {sweeper : Sweeper} {select : BackendObject → Option Candidate}
  {reply : ListReply BackendObject}

theorem judged_other (sweeper : Sweeper) (different : key ≠ dwellKey candidate.target) :
    (judged dwell pass inputs verified candidate sweeper).clocks key = sweeper.clocks key ∧
      lastJudged (judged dwell pass inputs verified candidate sweeper).log key = lastJudged sweeper.log key := by
  constructor
  · exact settle_other _ _ _ _ _ _ _ different
  · have other : (dwellKey candidate.target == key) = false := beq_false_of_ne (Ne.symm different)
    simp only [judged, lastJudged, find?_cons, other]

theorem sweep_candidates_other {candidates : List Candidate} (sweeper : Sweeper)
    (absent : key ∉ candidates.map fun candidate => dwellKey candidate.target) :
    (sweepCandidates dwell pass inputs verified candidates sweeper).1.clocks key = sweeper.clocks key ∧
      lastJudged (sweepCandidates dwell pass inputs verified candidates sweeper).1.log key = lastJudged sweeper.log key := by
  induction candidates generalizing sweeper with
  | nil => exact ⟨rfl, rfl⟩
  | cons candidate rest ih =>
    rw [map_cons, mem_cons, not_or] at absent
    have here := judged_other dwell pass inputs verified sweeper absent.1
    simp only [sweepCandidates]
    split
    · exact here
    · have there := ih (judged dwell pass inputs verified candidate sweeper) absent.2
      exact ⟨there.1.trans here.1, there.2.trans here.2⟩

theorem continues_of_same {other : Sweeper}
    (clocks : other.clocks (dwellKey candidate.target) = sweeper.clocks (dwellKey candidate.target))
    (last : lastJudged other.log (dwellKey candidate.target) = lastJudged sweeper.log (dwellKey candidate.target))
    (continued : continues sweeper candidate = true) : continues other candidate = true := by
  rw [continues, clocks, last]
  exact continued

theorem continued_backing {time t : Nat}
    (sound : Sound dwell identity time sweeper) (continued : continues sweeper candidate = true)
    (running : sweeper.clocks (dwellKey candidate.target) = some t) :
    ∃ since first older, sweeper.log = since ++ first :: older ∧ dwellKey first.target = dwellKey candidate.target ∧
      first.pass.now = t ∧ first.decision.unreferenced = true ∧ candidate.uid = first.uid ∧
      ∀ other ∈ since, dwellKey other.target = dwellKey candidate.target →
        other.uid = first.uid ∧ other.decision.unreferenced = true := by
  rw [continues, running] at continued
  obtain ⟨last, found, same⟩ := any_eq_true _ _ |>.mp continued
  obtain ⟨since, first, older, split, keyed, instant, free, uid, all⟩ := backed_last (sound.backed _ t running) found
  exact ⟨since, first, older, split, keyed, instant, free, (beq_iff_eq.mp same).symm.trans uid, all⟩

variable (sound : Sound dwell identity pass.now sweeper)

include sound in
theorem judged_backed (instant : inputs.now = pass.now) (continued : continues sweeper candidate = true) (key : String) (t : Nat)
    (running : (judged dwell pass inputs verified candidate sweeper).clocks key = some t) :
    Backed (judged dwell pass inputs verified candidate sweeper).log key t := by
  by_cases own : key = dwellKey candidate.target
  · subst own
    obtain ⟨free, before | ⟨_, started⟩⟩ := settle_own _ _ _ _ _ _ _ running
    · obtain ⟨since, first, older, split, keyed, at_, unreferenced, same, all⟩ := continued_backing dwell _ sound continued before
      refine ⟨_ :: since, first, older, congrArg _ split, keyed, at_, unreferenced, ?_⟩
      intro other member named
      rcases mem_cons.mp member with rfl | member
      · exact ⟨same, free⟩
      · exact all other member named
    · exact ⟨[], _, sweeper.log, rfl, rfl, (started.trans instant).symm, free, fun _ member => nomatch member⟩
  · have before := (judged_other dwell pass inputs verified sweeper own).1 ▸ running
    obtain ⟨since, first, older, split, keyed, at_, unreferenced, all⟩ := sound.backed key t before
    refine ⟨_ :: since, first, older, congrArg _ split, keyed, at_, unreferenced, ?_⟩
    intro other member named
    rcases mem_cons.mp member with rfl | member
    · exact absurd named.symm own
    · exact all other member named

include sound in
theorem judged_dwelt {uid : String} (instant : inputs.now = pass.now)
    (continued : continues sweeper candidate = true) (known : candidate.uid = some uid)
    (named : identity uid = candidate.target)
    (reaped : decisionFor dwell inputs sweeper.clocks candidate.target = .reap) :
    Dwelt dwell uid pass.now sweeper.log := by
  obtain ⟨_, _, _, elapsed, timed, late⟩ := (reap_decision_iff _ _ _ _ _ _ _).mp reaped
  obtain ⟨t, running, rfl⟩ := map_eq_some_iff.mp timed
  obtain ⟨since, first, older, split, keyed, at_, free, same, all⟩ := continued_backing dwell _ sound continued running
  have begun : first.pass.now ≤ pass.now := sound.past first (split ▸ by simp)
  refine ⟨since, first, older, split, same.symm.trans known, free, by omega, ?_⟩
  intro other member this
  have target := sound.named other (split ▸ by simp [member]) uid this
  exact (all other member (congrArg dwellKey (target.symm.trans named))).2

include sound in
theorem judged_sound (instant : inputs.now = pass.now) (continued : continues sweeper candidate = true)
    (named : ∀ uid, candidate.uid = some uid → identity uid = candidate.target)
    (consulted : ∀ uid, verified uid = true → Consulted pass candidate.target uid) :
    Sound dwell identity pass.now (judged dwell pass inputs verified candidate sweeper) where
  backed := judged_backed dwell _ pass _ verified sound instant continued
  past := by
    exact forall_mem_cons.mpr ⟨Nat.le_refl _, sound.past⟩
  named := by
    exact forall_mem_cons.mpr ⟨named, sound.named⟩
  warranted := by
    intro later deletion earlier split deleted
    cases later with
    | nil =>
      obtain ⟨rfl, rfl⟩ := List.cons.inj split
      obtain ⟨reaped, uid, known, sure⟩ := settle_deleted _ _ _ _ _ _ _ deleted
      exact ⟨reaped, uid, known, consulted uid sure, judged_dwelt dwell _ pass _ sound instant continued known (named uid known)
          reaped⟩
    | cons head rest =>
      obtain ⟨_, split⟩ := List.cons.inj split
      exact sound.warranted rest deletion earlier split deleted

theorem sweep_candidates_sound (candidates : List Candidate) (sweeper : Sweeper)
    (sound : Sound dwell identity pass.now sweeper) (instant : inputs.now = pass.now)
    (apart : (candidates.map fun candidate => dwellKey candidate.target).Nodup)
    (continued : ∀ candidate ∈ candidates, continues sweeper candidate = true)
    (named : ∀ candidate ∈ candidates, ∀ uid, candidate.uid = some uid → identity uid = candidate.target)
    (consulted : ∀ candidate ∈ candidates, ∀ uid, verified uid = true → Consulted pass candidate.target uid) :
    Sound dwell identity pass.now (sweepCandidates dwell pass inputs verified candidates sweeper).1 := by
  induction candidates generalizing sweeper with
  | nil => exact sound
  | cons candidate rest ih =>
    have head : candidate ∈ candidate :: rest := mem_cons_self
    have next := judged_sound dwell _ pass _ verified sound instant
      (continued candidate head) (named candidate head) (consulted candidate head)
    obtain ⟨fresh, apart⟩ := nodup_cons.mp apart
    simp only [sweepCandidates]
    split
    · exact next
    · refine ih _ next apart ?_ (fun other member => named other (mem_cons_of_mem _ member))
        (fun other member => consulted other (mem_cons_of_mem _ member))
      intro other member
      have different : dwellKey other.target ≠ dwellKey candidate.target := fun same =>
        fresh (mem_map.mpr ⟨other, member, same⟩)
      have kept := judged_other dwell pass inputs verified sweeper different
      exact continues_of_same kept.1 kept.2 (continued other (mem_cons_of_mem _ member))

theorem sweep_arm_cases (select : BackendObject → Option Candidate) (reply : ListReply BackendObject) (sweeper : Sweeper) :
    (sweepArm dwell pass inputs verified select reply sweeper).1 = sweeper ∨
      (reply.Complete ∧ sweepArm dwell pass inputs verified select reply sweeper =
        sweepCandidates dwell pass inputs verified (reply.items.filterMap select) sweeper) := by
  cases reply with
  | failed => exact .inl rfl
  | notFound => exact .inl rfl
  | ok list =>
    by_cases truncated : listTruncated list = true
    · exact .inl (by simp [sweepArm, truncated])
    · rw [Bool.not_eq_true] at truncated
      exact .inr ⟨⟨list, rfl, truncated⟩, by simp [sweepArm, truncated, ListReply.items, ListReply.list]⟩

theorem sweep_arm_other (sweeper : Sweeper)
    (absent : key ∉ (reply.items.filterMap select).map fun candidate => dwellKey candidate.target) :
    (sweepArm dwell pass inputs verified select reply sweeper).1.clocks key = sweeper.clocks key ∧
      lastJudged (sweepArm dwell pass inputs verified select reply sweeper).1.log key = lastJudged sweeper.log key := by
  rcases sweep_arm_cases dwell pass inputs verified select reply sweeper with idle | ⟨_, swept⟩
  · rw [idle]
    exact ⟨rfl, rfl⟩
  · rw [swept]
    exact sweep_candidates_other dwell pass inputs verified sweeper absent

include sound in
theorem sweep_arm_sound (instant : inputs.now = pass.now)
    (apart : ((reply.items.filterMap select).map fun candidate => dwellKey candidate.target).Nodup)
    (continued : ∀ candidate ∈ reply.items.filterMap select, continues sweeper candidate = true)
    (named : ∀ candidate ∈ reply.items.filterMap select, ∀ uid, candidate.uid = some uid → identity uid = candidate.target)
    (consulted : reply.Complete → ∀ candidate ∈ reply.items.filterMap select, ∀ uid, verified uid = true →
      Consulted pass candidate.target uid) :
    Sound dwell identity pass.now (sweepArm dwell pass inputs verified select reply sweeper).1 := by
  rcases sweep_arm_cases dwell pass inputs verified select reply sweeper with idle | ⟨complete, swept⟩
  · rw [idle]
    exact sound
  · rw [swept]
    exact sweep_candidates_sound dwell _ pass _ verified _ _ sound instant apart continued named (consulted complete)

end Pass

theorem dragonfly_candidate_target (selected : dragonflyCandidate object = some candidate) :
    ∃ cls parsed, candidate.target = .dragonfly object.name cls parsed := by
  unfold dragonflyCandidate at selected
  split at selected
  · cases selected
  · rename_i cls parsed
    split at selected
    · cases selected
    · cases some.inj selected
      exact ⟨cls, parsed, rfl⟩

theorem cnpg_candidate_target {idx : ProviderIndex}
    (selected : cnpgCandidate idx object = some candidate) : candidate.target = .cnpg object.name := by
  unfold cnpgCandidate at selected
  split at selected
  · cases selected
  · split at selected
    · cases selected
    · cases some.inj selected
      rfl

theorem candidates_apart {select : BackendObject → Option Candidate} {objects : List BackendObject}
    (named : ∀ object candidate, select object = some candidate → candidate.target.name = object.name)
    (apart : (objects.map BackendObject.name).Nodup) :
    ((objects.filterMap select).map fun candidate => dwellKey candidate.target).Nodup := by
  induction objects with
  | nil => exact nodup_nil
  | cons object rest ih =>
    obtain ⟨fresh, apart⟩ := nodup_cons.mp apart
    cases selected : select object with
    | none =>
      rw [filterMap_cons_none selected]
      exact ih apart
    | some candidate =>
      rw [filterMap_cons_some selected, map_cons, nodup_cons]
      refine ⟨?_, ih apart⟩
      intro member
      obtain ⟨other, among, same⟩ := mem_map.mp member
      obtain ⟨listed, here, chosen⟩ := mem_filterMap.mp among
      have names : listed.name = object.name := by
        rw [← named listed other chosen, dwell_key_inj same, named object candidate selected]
      exact fresh (names ▸ mem_map_of_mem here)

theorem strip_verified_complete {uid : String} (verified : stripVerified pass uid = true) :
    (pass.volumes uid).before.Complete ∧ (pass.volumes uid).after.Complete := by
  unfold stripVerified at verified
  split at verified
  · rename_i count stripped
    unfold stripCnpgPvcOwners at stripped
    split at stripped
    · cases stripped
    · rename_i before known
      split at stripped
      · cases stripped
      · rename_i whole
        simp only at stripped
        split at stripped
        · cases stripped
        · split at stripped
          · cases stripped
          · rename_i after known'
            split at stripped
            · cases stripped
            · rename_i whole'
              exact ⟨⟨before, known, Bool.not_eq_true _ ▸ whole⟩, ⟨after, known', Bool.not_eq_true _ ▸ whole'⟩⟩
  · cases verified

theorem inputs_read {inputs : SweepInputs} (read : pass.inputs = some inputs) :
    pass.live.Complete ∧ pass.retained.Complete ∧ pass.providers.Complete ∧ (∃ list, pass.shared.list = some list) ∧
      inputs.providers = pass.providers.items ∧ inputs.idx = providerIndex pass.providers.items ∧
      inputs.now = pass.now := by
  obtain ⟨live, ofLive, read⟩ := bind_eq_some_iff.mp read
  obtain ⟨retained, ofRetained, read⟩ := bind_eq_some_iff.mp read
  obtain ⟨shared, ofShared, read⟩ := bind_eq_some_iff.mp read
  obtain ⟨providers, ofProviders, read⟩ := bind_eq_some_iff.mp read
  have items : pass.providers.items = providers.items := by rw [ListReply.items, ofProviders]; rfl
  split at read
  · cases read
  · rename_i whole
    simp only [Bool.or_eq_true, not_or, Bool.not_eq_true] at whole
    cases some.inj read
    exact ⟨⟨live, ofLive, whole.1.1⟩, ⟨retained, ofRetained, whole.1.2⟩, ⟨providers, ofProviders, whole.2⟩,
      ⟨shared, ofShared⟩, items.symm, congrArg providerIndex items.symm, rfl⟩

section Sweep

variable (dwell : Nat) {identity : String → Target} {pass : SweepPass} {inputs : SweepInputs}

theorem sweep_dragonfly_eq (providers : inputs.providers = pass.providers.items) (sweeper : Sweeper) :
    sweepDragonfly dwell pass inputs sweeper =
      sweepArm dwell pass inputs (fun _ => true) dragonflyCandidate pass.dragonflyObjects sweeper := by
  rw [sweepDragonfly, providers]
  rfl

theorem sweep_cnpg_cases (providers : inputs.providers = pass.providers.items)
    (idx : inputs.idx = providerIndex pass.providers.items) (sweeper : Sweeper) :
    (sweepCnpg dwell pass inputs sweeper).1 = sweeper ∨ sweepCnpg dwell pass inputs sweeper =
      sweepArm dwell pass inputs (stripVerified pass) (cnpgCandidate (providerIndex pass.providers.items))
        pass.clusterObjects sweeper := by
  unfold sweepCnpg
  split
  · exact .inl rfl
  · rw [providers, idx]
    exact .inr rfl

variable {sweeper : Sweeper}

theorem sweep_dragonfly_sound (sound : Sound dwell identity pass.now sweeper)
    (read : pass.inputs = some inputs) (served : pass.served identity = true) (shared : pass.shared.Complete)
    (continued : ∀ candidate ∈ pass.dragonflyCandidates, continues sweeper candidate = true) :
    Sound dwell identity pass.now (sweepDragonfly dwell pass inputs sweeper).1 := by
  obtain ⟨live, retained, providers, _, listed, _, instant⟩ := inputs_read read
  rw [SweepPass.served, Bool.and_eq_true, Bool.and_eq_true, decide_eq_true_eq, List.all_eq_true] at served
  rw [sweep_dragonfly_eq dwell listed]
  refine sweep_arm_sound dwell _ pass _ _ sound instant ?_ continued ?_ ?_
  · refine candidates_apart ?_ served.1.1
    intro object candidate selected
    obtain ⟨cls, parsed, target⟩ := dragonfly_candidate_target selected
    rw [target]
    rfl
  · intro candidate member uid known
    have named := served.2 candidate (mem_append_left _ member)
    rw [known] at named
    exact beq_iff_eq.mp named
  · intro complete candidate member uid _
    obtain ⟨object, _, selected⟩ := mem_filterMap.mp member
    obtain ⟨cls, parsed, target⟩ := dragonfly_candidate_target selected
    rw [target]
    exact ⟨live, retained, shared, providers, complete⟩

theorem sweep_cnpg_sound (sound : Sound dwell identity pass.now sweeper)
    (read : pass.inputs = some inputs) (served : pass.served identity = true) (shared : pass.shared.Complete)
    (continued : ∀ candidate ∈ pass.cnpgCandidates, continues sweeper candidate = true) :
    Sound dwell identity pass.now (sweepCnpg dwell pass inputs sweeper).1 := by
  obtain ⟨live, retained, providers, _, listed, indexed, instant⟩ := inputs_read read
  rw [SweepPass.served, Bool.and_eq_true, Bool.and_eq_true, decide_eq_true_eq, decide_eq_true_eq, List.all_eq_true] at served
  rcases sweep_cnpg_cases dwell listed indexed sweeper with idle | swept
  · rw [idle]
    exact sound
  rw [swept]
  refine sweep_arm_sound dwell _ pass _ _ sound instant ?_ continued ?_ ?_
  · refine candidates_apart ?_ served.1.2
    intro object candidate selected
    rw [cnpg_candidate_target selected]
    rfl
  · intro candidate member uid known
    have named := served.2 candidate (mem_append_right _ member)
    rw [known] at named
    exact beq_iff_eq.mp named
  · intro complete candidate member uid verified
    obtain ⟨object, _, selected⟩ := mem_filterMap.mp member
    rw [cnpg_candidate_target selected]
    exact ⟨live, retained, shared, providers, complete, strip_verified_complete verified⟩

-- The two arms share the clocks and never a key.
theorem cnpg_key_apart {candidate : Candidate} (member : candidate ∈ pass.cnpgCandidates) :
    dwellKey candidate.target ∉ pass.dragonflyCandidates.map fun other => dwellKey other.target := by
  intro among
  obtain ⟨other, there, same⟩ := mem_map.mp among
  obtain ⟨cluster, _, chosen⟩ := mem_filterMap.mp member
  obtain ⟨object, _, selected⟩ := mem_filterMap.mp there
  obtain ⟨cls, parsed, target⟩ := dragonfly_candidate_target selected
  have clash := dwell_key_inj same
  rw [target, cnpg_candidate_target chosen] at clash
  cases clash

theorem sweep_sound {time : Nat} (sound : Sound dwell identity time sweeper)
    (passed : time ≤ pass.now) (served : pass.served identity = true)
    (whole : (pass.shared.list.all fun list => !listTruncated list) = true)
    (continued : ∀ candidate ∈ pass.candidates, continues sweeper candidate = true) :
    Sound dwell identity pass.now (sweep dwell pass sweeper) := by
  have sound := sound_later sound passed
  unfold sweep
  cases read : pass.inputs with
  | none => exact sound
  | some inputs =>
    obtain ⟨_, _, _, ⟨list, ofShared⟩, listed, _, _⟩ := inputs_read read
    have shared : pass.shared.Complete := by
      rw [ofShared] at whole
      exact ⟨list, ofShared, by simpa using whole⟩
    have first := sweep_dragonfly_sound dwell sound read served shared
      fun candidate member => continued candidate (mem_append_left _ member)
    have second := sweep_cnpg_sound dwell first read served shared fun candidate member => by
      have kept := sweep_arm_other dwell pass inputs (fun _ => true) sweeper
        (cnpg_key_apart member)
      rw [← sweep_dragonfly_eq dwell listed] at kept
      exact continues_of_same kept.1 kept.2
        (continued candidate (mem_append_right _ member))
    refine sound_fewer second ?_
    intro key t running
    split at running
    · exact running
    · cases running

theorem sound_reachable {s : SweepState} (reached : ((sweeps dwell identity).restrict undisturbed).Reachable s) :
    Sound dwell identity s.time s.sweeper := by
  refine System.invariant _ (fun s => Sound dwell identity s.time s.sweeper) ?_ ?_ s reached
  · rintro s rfl
    exact
      { backed := fun _ _ running => nomatch running
        past := fun _ member => nomatch member
        named := fun _ member => nomatch member
        warranted := fun later _ _ split => by cases later <;> cases split }
  · intro s action t sound taken
    obtain ⟨permitted, taken⟩ := System.restrict_step _ _ _ _ _ taken
    cases action with
    | restart =>
      cases some.inj taken
      exact sound_fewer sound fun _ _ running => nomatch running
    | sweep pass =>
      simp only [sweeps] at taken
      split at taken
      · rename_i legal
        cases some.inj taken
        rw [undisturbed, Bool.and_eq_true, List.all_eq_true] at permitted
        exact sweep_sound dwell sound legal.1 legal.2 permitted.1 permitted.2
      · cases taken

end Sweep

-- Where no list comes truncated and no instance is replaced under a running clock.
theorem deletion_warranted (dwell : Nat) (identity : String → Target) (s : SweepState)
    (reached : ((sweeps dwell identity).restrict undisturbed).Reachable s) (later : List Judgement)
    (deletion : Judgement) (earlier : List Judgement) (split : s.sweeper.log = later ++ deletion :: earlier)
    (deleted : deletion.deleted = true) : Warranted dwell earlier deletion :=
  (sound_reachable dwell reached).warranted later deletion earlier split deleted

def poolPass (shared : ObjectList SharedDatabase) (uid : String) (now : Nat) : SweepPass :=
  { live := .ok { items := [] }
    retained := .ok { items := [] }
    shared := .ok shared
    providers := .ok { items := [redisProvider] }
    now := now
    dragonflies := fun _ => .ok { items :=
          [{ name := "platform-redis-persistent-000", uid := some uid, labels := [(managedByKey, managedByValue)] }] }
    clusters := fun _ => .notFound
    volumes := fun _ => { before := .failed, patched := fun _ => false, after := .failed }
    delete := fun _ => .done }

def noShared : ObjectList SharedDatabase := { items := [] }

def cutShared : ObjectList SharedDatabase := { items := [], continueToken := some "sessions" }

def poolJudgement (pass : SweepPass) (uid : String) (decision : Decision) (deleted : Bool) : Judgement :=
  { pass := pass, target := persistentPool, uid := some uid, decision := decision, deleted := deleted }

def swept (passes : List SweepPass) : SweepState :=
  passes.foldl (fun s pass => { sweeper := sweep 300 pass s.sweeper, time := pass.now }) { sweeper := idleSweeper, time := 0 }

theorem deletion_warranted_pool :
    Warranted 300 [poolJudgement (poolPass noShared "a1" 0) "a1" .dwell false]
      (poolJudgement (poolPass noShared "a1" 300) "a1" .reap true) := by
  refine deletion_warranted 300 (fun _ => persistentPool)
    (swept [poolPass noShared "a1" 0, poolPass noShared "a1" 300]) ?_ [] _ _ rfl rfl
  refine .step (swept [poolPass noShared "a1" 0]) _ (.sweep (poolPass noShared "a1" 300)) ?_ rfl
  exact .step (swept []) _ (.sweep (poolPass noShared "a1" 0)) (.initial _ rfl) rfl

-- The instance is re-created and goes on the old clock; a truncated list stops no pass.
theorem deletion_unwarranted :
    (∃ s deletion earlier, (sweeps 300 fun _ => persistentPool).Reachable s ∧
      s.sweeper.log = deletion :: earlier ∧ deletion.deleted = true ∧ ¬Warranted 300 earlier deletion ∧
      ∀ other ∈ earlier, other.uid ≠ deletion.uid) ∧
    ∃ s deletion earlier, (sweeps 300 fun _ => persistentPool).Reachable s ∧
      s.sweeper.log = deletion :: earlier ∧ deletion.deleted = true ∧ ¬Warranted 300 earlier deletion ∧
      ¬deletion.pass.shared.Complete := by
  constructor
  · refine ⟨swept [poolPass noShared "a1" 0, poolPass noShared "a2" 300],
      poolJudgement (poolPass noShared "a2" 300) "a2" .reap true,
      [poolJudgement (poolPass noShared "a1" 0) "a1" .dwell false], ?_, rfl, rfl, ?_, ?_⟩
    · refine .step (swept [poolPass noShared "a1" 0]) _ (.sweep (poolPass noShared "a2" 300)) ?_ rfl
      exact .step (swept []) _ (.sweep (poolPass noShared "a1" 0)) (.initial _ rfl) rfl
    · rintro ⟨_, uid, known, _, since, first, older, split, same, _⟩
      cases some.inj known
      have member : first ∈ [poolJudgement (poolPass noShared "a1" 0) "a1" .dwell false] := split ▸ by simp
      cases mem_singleton.mp member
      exact absurd same (by decide)
    · intro other member
      cases mem_singleton.mp member
      decide
  · have partly : ¬(poolPass cutShared "a1" 300).shared.Complete := by
      rintro ⟨list, known, whole⟩
      cases some.inj known
      exact absurd whole (by decide)
    refine ⟨swept [poolPass cutShared "a1" 0, poolPass cutShared "a1" 300],
      poolJudgement (poolPass cutShared "a1" 300) "a1" .reap true,
      [poolJudgement (poolPass cutShared "a1" 0) "a1" .dwell false], ?_, rfl, rfl, ?_, partly⟩
    · refine .step (swept [poolPass cutShared "a1" 0]) _ (.sweep (poolPass cutShared "a1" 300)) ?_ rfl
      exact .step (swept []) _ (.sweep (poolPass cutShared "a1" 0)) (.initial _ rfl) rfl
    · rintro ⟨_, uid, _, consulted, _⟩
      exact partly consulted.2.2.1

end AppRafter.Provisioner
