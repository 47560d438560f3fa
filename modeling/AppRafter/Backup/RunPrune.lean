import AppRafter.Backup.Latest
import AppRafter.Lib.Await

set_option autoImplicit false

namespace AppRafter.Backup

open Lib List Option

inductive PruneOutcome where
  | nothingToPrune (keptRuns unfinishedRuns : Nat)
  | pruned (forgotSnapshots forgotRuns keptRuns unfinishedRuns : Nat)
  | notPermitted (snapshot resticSaid : String) (wouldForgetSnapshots wouldForgetRuns : Nat)
  deriving DecidableEq

inductive ResticRequest where
  | snapshots
  | forget (ids : List String)
  | prune
  deriving DecidableEq

def restic : Api where
  Request := ResticRequest
  Response
    | .snapshots => Except String (List Document)
    | .forget _ => Except String String
    | .prune => Except String Unit

abbrev PruneProg := Prog restic String PruneOutcome

def listing : Prog restic String (List SnapshotMeta) :=
  .call .snapshots fun answer =>
    match answer with
    | .ok documents => .done (parseSnapshots documents)
    | .error e => .fail e

def listedIds : Prog restic String (List String) := do
  let snapshots ← listing
  pure (snapshots.map SnapshotMeta.id)

def forget (ids : List String) : Prog restic String String :=
  .call (.forget ids) fun answer =>
    match answer with
    | .ok stderr => .done stderr
    | .error e => .fail e

def reclaim : Prog restic String Unit :=
  .call .prune fun answer =>
    match answer with
    | .ok () => .done ()
    | .error e => .fail e

def asciiLowercase (s : String) : String :=
  String.ofList (s.toList.map fun c => if 'A' ≤ c ∧ c ≤ 'Z' then Char.ofNat (c.toNat + 32) else c)

def mentions (s found : String) : Bool := s.toList.tails.any fun rest => found.toList.isPrefixOf rest

def deleteWasDenied (stderr : String) : Bool :=
  let s := asciiLowercase stderr
  mentions s "access denied" || mentions s "accessdenied" || mentions s "403 forbidden"

def firstLine (stderr : String) : String :=
  (((Text.split '\n' stderr).map Text.trim).find? fun line => line ≠ "").getD "restic gave no reason"

def stillListed (probe resticSaid : String) : String :=
  "restic forget exited 0 but snapshot " ++ probe ++ " is still in the repository, so nothing was forgotten and the " ++
    "repository was not pruned. restic said: " ++ firstLine resticSaid

def someLeft (planned : Nat) (left : List String) (stderr : String) : String :=
  "restic forget removed " ++ toString (planned - left.length) ++ " of the " ++ toString planned ++
    " snapshot(s) past the keep policy, and " ++ toString left.length ++ " (first " ++ left.head?.getD "" ++
    ") are still in the repository, so the repository was not pruned. restic said: " ++ firstLine (Text.trim stderr)

variable (plan : PrunePlan)

-- Every forgotten snapshot is gone: the data only they used can go.
def reclaimPlan : PruneProg := do
  reclaim
  pure (.pruned plan.forgetIds.length plan.forgetRuns plan.keptRuns plan.unfinishedRuns)

def restForgotten (rest : List String) (said : String) (listed : List String) : PruneProg :=
  let left := rest.filter fun id => id ∈ listed
  if left ≠ [] then .fail (someLeft plan.forgetIds.length left said) else reclaimPlan plan

def forgetRest (rest : List String) : PruneProg :=
  if rest ≠ [] then do
    let said ← forget rest
    let listed ← listedIds
    restForgotten plan rest said listed
  else reclaimPlan plan

def probeForgotten (probe : String) (rest : List String) (said : String) (listed : List String) :
    PruneProg :=
  if probe ∈ listed then
    let resticSaid := Text.trim said
    if deleteWasDenied resticSaid then
      .done (.notPermitted probe resticSaid plan.forgetIds.length plan.forgetRuns)
    else .fail (stillListed probe resticSaid)
  else forgetRest plan rest

def forgetPlan : PruneProg :=
  match plan.forgetIds with
  | [] => .done (.nothingToPrune plan.keptRuns plan.unfinishedRuns)
  | probe :: rest => do
      let said ← forget [probe]
      let listed ← listedIds
      probeForgotten plan probe rest said listed

def runPrune (snapshotInstant : String → Option Instant) (policy : RetentionPolicy) (thisClusterUid : String)
    (now : Instant) (runDeadline : Duration) : PruneProg := do
  let snapshots ← listing
  forgetPlan (planPrune snapshotInstant snapshots policy thisClusterUid now runDeadline)

-- Any state is one the process may die in.
structure PruneState where
  listed : List Document
  prog : PruneProg

inductive ResticAction where
  | remove (id : String)
  | list (failed : Option String)
  | answerForget (answer : Except String String)
  | answerPrune (answer : Except String Unit)

def answerList (listed : List Document) : Option String → Except String (List Document)
  | some e => .error e
  | none => .ok listed

def PruneState.step (state : PruneState) (action : ResticAction) : Option PruneState :=
  match state.prog, action with
  | .call (.forget ids) next, .remove id =>
    if id ∈ ids then some ⟨forgotten state.listed [id], .call (.forget ids) next⟩ else none
  | .call (.forget _) next, .answerForget answer => some ⟨state.listed, next answer⟩
  | .call .snapshots next, .list failed =>
    some ⟨state.listed, next (answerList state.listed failed)⟩
  | .call .prune next, .answerPrune answer => some ⟨state.listed, next answer⟩
  | _, _ => none

def pruneSystem (documents : List Document) (prog : PruneProg) : System PruneState ResticAction where
  initial state := state = ⟨documents, prog⟩
  step := PruneState.step

section Steps

theorem listed_ids_bind (next : List String → PruneProg) :
    (listedIds >>= next) = listing >>= fun snapshots => next (snapshots.map SnapshotMeta.id) := by
  change @Prog.call restic String PruneOutcome .snapshots _ = @Prog.call restic String PruneOutcome .snapshots _
  refine congrArg _ (funext fun answer => ?_)
  cases answer <;> rfl

variable {listed : List Document} {ids : List String} {action : ResticAction} {t : PruneState}

theorem step_forget {next : String → PruneProg} (taken : PruneState.step ⟨listed, forget ids >>= next⟩ action = some t) :
    (∃ id ∈ ids, t = ⟨forgotten listed [id], forget ids >>= next⟩) ∨ (∃ said, t = ⟨listed, next said⟩) ∨
      ∃ e, t = ⟨listed, .fail e⟩ := by
  cases action with
  | remove id =>
    change (if id ∈ ids then _ else none) = some t at taken
    by_cases member : id ∈ ids
    · rw [if_pos member] at taken
      exact .inl ⟨id, member, (some.inj taken).symm⟩
    · rw [if_neg member] at taken
      cases taken
  | answerForget answer =>
    cases answer with
    | ok said => exact .inr (.inl ⟨said, (some.inj taken).symm⟩)
    | error e => exact .inr (.inr ⟨e, (some.inj taken).symm⟩)
  | list failed => cases taken
  | answerPrune answer => cases taken

theorem remove_step (listed : List Document) (next : String → PruneProg) {id : String} (member : id ∈ ids) :
    PruneState.step ⟨listed, forget ids >>= next⟩ (.remove id) = some ⟨forgotten listed [id], forget ids >>= next⟩ :=
  if_pos member

theorem step_listing {next : List SnapshotMeta → PruneProg} (taken : PruneState.step ⟨listed, listing >>= next⟩ action = some t) :
    t = ⟨listed, next (parseSnapshots listed)⟩ ∨ ∃ e, t = ⟨listed, .fail e⟩ := by
  cases action with
  | list failed =>
    cases failed with
    | none => exact .inl (some.inj taken).symm
    | some e => exact .inr ⟨e, (some.inj taken).symm⟩
  | remove id => cases taken
  | answerForget answer => cases taken
  | answerPrune answer => cases taken

theorem step_reclaim {next : Unit → PruneProg} (taken : PruneState.step ⟨listed, reclaim >>= next⟩ action = some t) :
    t = ⟨listed, next ()⟩ ∨ ∃ e, t = ⟨listed, .fail e⟩ := by
  cases action with
  | answerPrune answer =>
    cases answer with
    | ok done => exact .inl (some.inj taken).symm
    | error e => exact .inr ⟨e, (some.inj taken).symm⟩
  | remove id => cases taken
  | list failed => cases taken
  | answerForget answer => cases taken

end Steps

section Points

variable (documents : List Document) (plan : PrunePlan)

def isListed (listed : List Document) (id : String) : Prop := ∃ s ∈ listed, s.metaId = id

def pending : PruneProg → Option ResticRequest
  | .call request _ => some request
  | _ => none

structure SoundPoint (state : PruneState) : Prop where
  outside : ∀ s ∈ documents, s.metaId ∉ plan.forgetIds → s ∈ state.listed
  reclaimed : pending state.prog = some .prune → ∀ id ∈ plan.forgetIds, ¬ isListed state.listed id
  denied : ∀ probe said snapshots runs, state.prog = .done (.notPermitted probe said snapshots runs) → state.listed = documents

-- And with it, that no run whose commit is listed has lost a snapshot.
structure SafePoint (state : PruneState) : Prop extends SoundPoint documents plan state where
  whole : ∀ c ∈ parseSnapshots documents, c.isManifest = true → c.runTag ≠ "" → isListed state.listed c.id →
    ∀ s ∈ parseSnapshots documents, s.runTag = c.runTag → isListed state.listed s.id

def CommitFirst : Prop :=
  ∀ c ∈ parseSnapshots documents, c.isManifest = true → c.runTag ≠ "" →
    ∀ s ∈ parseSnapshots documents, s.runTag = c.runTag → s.id ≠ c.id → s.id ∈ plan.forgetIds → plan.forgetIds.head? = some c.id

-- None but the plan's first is gone while that one is listed.
structure Forgetting (listed : List Document) (gone : List String) : Prop where
  left : listed = forgotten documents gone
  within : ∀ id ∈ gone, id ∈ plan.forgetIds
  first : ∀ probe, plan.forgetIds.head? = some probe → isListed listed probe → gone = []

theorem forgotten_twice (first second : List String) :
    forgotten (forgotten documents first) second = forgotten documents (first ++ second) := by
  rw [forgotten, forgotten, List.filter_filter]
  refine filter_congr fun s _ => ?_
  rw [Bool.eq_iff_iff, Bool.and_eq_true, decide_eq_true_eq, decide_eq_true_eq, decide_eq_true_eq, mem_append, not_or,
    and_comm]

theorem forgotten_nil : forgotten documents [] = documents := filter_eq_self.mpr fun _ _ => decide_eq_true not_mem_nil

theorem listed_forgotten (gone : List String) (id : String) :
    isListed (forgotten documents gone) id ↔ isListed documents id ∧ id ∉ gone := by
  constructor
  · rintro ⟨s, member, rfl⟩
    obtain ⟨present, left⟩ := mem_filter.mp member
    exact ⟨⟨s, present, rfl⟩, of_decide_eq_true left⟩
  · rintro ⟨⟨s, present, rfl⟩, left⟩
    exact ⟨s, mem_filter.mpr ⟨present, decide_eq_true left⟩, rfl⟩

variable {s c : SnapshotMeta} {listed : List Document} {gone rest : List String} {probe : String} {prog : PruneProg}
  {state : PruneState}

theorem parsed_listed (parsed : s ∈ parseSnapshots documents) : isListed documents s.id := by
  obtain ⟨raw, member, rfl⟩ := mem_map.mp parsed
  exact ⟨raw, mem_of_mem_filter member, rfl⟩

theorem forgetting_whole (safe : CommitFirst documents plan)
    (forgetting : Forgetting documents plan listed gone) (commit : c ∈ parseSnapshots documents)
    (manifest : c.isManifest = true) (tagged : c.runTag ≠ "") (there : isListed listed c.id)
    (member : s ∈ parseSnapshots documents) (same : s.runTag = c.runTag) : isListed listed s.id := by
  by_cases itself : s.id = c.id
  · exact itself ▸ there
  · rw [forgetting.left, listed_forgotten]
    refine ⟨parsed_listed _ member, fun lost => ?_⟩
    have planned := forgetting.within s.id lost
    have head := safe c commit manifest tagged s member same itself planned
    rw [forgetting.first c.id head there] at lost
    exact List.not_mem_nil lost

theorem mem_listed_ids (listed : Listed documents) (gone : List String) (id : String) :
    id ∈ (parseSnapshots (forgotten documents gone)).map SnapshotMeta.id ↔ isListed (forgotten documents gone) id := by
  have left : Listed (forgotten documents gone) := ⟨fun s member => listed.named s (List.mem_of_mem_filter member),
      listed.distinct.sublist (filter_sublist.map Document.metaId)⟩
  rw [parse_listed left, List.map_map, List.mem_map]
  rfl

variable (plans : List SnapshotMeta → PrunePlan)

inductive Stage (listed : List Document) (prog : PruneProg) : Prop where
  | start (untouched : listed = documents) (here : prog = listing >>= fun snapshots => forgetPlan (plans snapshots))
  | probing (probe : String) (rest gone : List String) (planned : plan.forgetIds = probe :: rest)
      (forgetting : Forgetting documents plan listed gone)
      (here : prog = forget [probe] >>= fun said => listedIds >>= probeForgotten plan probe rest said)
  | looking (probe : String) (rest gone : List String) (said : String) (planned : plan.forgetIds = probe :: rest)
      (forgetting : Forgetting documents plan listed gone)
      (here : prog = listedIds >>= probeForgotten plan probe rest said)
  | clearing (probe : String) (rest gone : List String) (planned : plan.forgetIds = probe :: rest)
      (forgetting : Forgetting documents plan listed gone) (cleared : ¬ isListed listed probe)
      (here : prog = forget rest >>= fun said => listedIds >>= restForgotten plan rest said)
  | checking (probe : String) (rest gone : List String) (said : String) (planned : plan.forgetIds = probe :: rest)
      (forgetting : Forgetting documents plan listed gone) (cleared : ¬ isListed listed probe)
      (here : prog = listedIds >>= restForgotten plan rest said)
  | reclaiming (gone : List String) (forgetting : Forgetting documents plan listed gone)
      (clear : ∀ id ∈ plan.forgetIds, ¬ isListed listed id) (here : prog = reclaimPlan plan)
  | ended (gone : List String) (forgetting : Forgetting documents plan listed gone) (silent : pending prog = none)
      (denied : ∀ probe said snapshots runs, prog = .done (.notPermitted probe said snapshots runs) → listed = documents)

theorem forgetting_start : Forgetting documents plan documents [] where
  left := (forgotten_nil documents).symm
  within _ member := absurd member not_mem_nil
  first _ _ _ := rfl

variable {documents}

theorem forgetting_more {id : String} (forgetting : Forgetting documents plan listed gone) (planned : id ∈ plan.forgetIds)
    (cleared : ∀ probe, plan.forgetIds.head? = some probe → ¬ isListed (forgotten listed [id]) probe) :
    Forgetting documents plan (forgotten listed [id]) (gone ++ [id]) where
  left := by rw [forgetting.left, forgotten_twice]
  within other member := by
    rcases mem_append.mp member with before | now
    · exact forgetting.within other before
    · rw [mem_singleton.mp now]
      exact planned
  first probe head there := absurd there (cleared probe head)

theorem failed_ended (forgetting : Forgetting documents plan listed gone)
    (e : String) : Stage documents plan plans listed (.fail e) :=
  .ended gone forgetting rfl nofun

theorem rest_forgotten_stage (said : String) (full : Listed documents) (planned : plan.forgetIds = probe :: rest)
    (forgetting : Forgetting documents plan listed gone) (cleared : ¬ isListed listed probe) :
    Stage documents plan plans listed (restForgotten plan rest said ((parseSnapshots listed).map SnapshotMeta.id)) := by
  rw [restForgotten]
  by_cases some_ : rest.filter (fun id => id ∈ (parseSnapshots listed).map SnapshotMeta.id) ≠ []
  · rw [if_pos some_]
    exact failed_ended plan plans forgetting _
  · rw [if_neg some_]
    refine .reclaiming gone forgetting (fun id member there => ?_) rfl
    rw [planned] at member
    rcases mem_cons.mp member with same | later
    · exact cleared (same ▸ there)
    · have found : id ∈ (parseSnapshots listed).map SnapshotMeta.id := by
        rw [forgetting.left, mem_listed_ids _ full, ← forgetting.left]
        exact there
      exact some_ (ne_nil_of_mem (mem_filter.mpr ⟨later, decide_eq_true found⟩))

theorem probe_forgotten_stage (said : String)
    (full : Listed documents) (planned : plan.forgetIds = probe :: rest) (forgetting : Forgetting documents plan listed gone) :
    Stage documents plan plans listed (probeForgotten plan probe rest said ((parseSnapshots listed).map SnapshotMeta.id)) := by
  have found : probe ∈ (parseSnapshots listed).map SnapshotMeta.id ↔ isListed listed probe := by
    rw [forgetting.left, mem_listed_ids _ full]
  rw [probeForgotten]
  by_cases there : isListed listed probe
  · rw [if_pos (found.mpr there)]
    have untouched : listed = documents := by
      have nothing := forgetting.first probe (planned ▸ rfl) there
      rw [forgetting.left, nothing, forgotten_nil]
    by_cases refused : deleteWasDenied (Text.trim said) = true
    · simp only [refused, if_true]
      exact .ended gone forgetting rfl fun _ _ _ _ _ => untouched
    · simp only [refused]
      exact failed_ended plan plans forgetting _
  · rw [if_neg fun listed_ => there (found.mp listed_), forgetRest]
    by_cases more : rest ≠ []
    · rw [if_pos more]
      exact .clearing probe rest gone planned forgetting there rfl
    · rw [if_neg more]
      refine .reclaiming gone forgetting (fun id member still => ?_) rfl
      rw [planned, not_not.mp more, mem_singleton] at member
      exact there (member ▸ still)

theorem forget_plan_stage (planned : plan = plans (parseSnapshots documents)) :
    Stage documents plan plans documents (forgetPlan (plans (parseSnapshots documents))) := by
  rw [← planned, forgetPlan]
  split
  · exact .ended [] (forgetting_start documents plan) rfl nofun
  · rename_i probe rest split_
    exact .probing probe rest [] split_ (forgetting_start documents plan) rfl

theorem stage_step (full : Listed documents) (planned : plan = plans (parseSnapshots documents)) (state t : PruneState)
    (action : ResticAction) (stage : Stage documents plan plans state.listed state.prog)
    (taken : PruneState.step state action = some t) : Stage documents plan plans t.listed t.prog := by
  obtain ⟨listed, prog⟩ := state
  cases stage with
  | start untouched here =>
    subst untouched here
    rcases step_listing taken with rfl | ⟨e, rfl⟩
    · exact forget_plan_stage plan plans planned
    · exact failed_ended plan plans (forgetting_start _ plan) e
  | probing probe rest gone split_ forgetting here =>
    subst here
    rcases step_forget taken with ⟨id, member, rfl⟩ | ⟨said, rfl⟩ | ⟨e, rfl⟩
    · obtain rfl := mem_singleton.mp member
      refine .probing id rest (gone ++ [id]) split_ (forgetting_more plan forgetting
        (split_ ▸ mem_cons_self) fun first head there => ?_) rfl
      rw [split_] at head
      cases head
      exact ((listed_forgotten listed [id] id).mp there).2 mem_cons_self
    · exact .looking probe rest gone said split_ forgetting rfl
    · exact failed_ended plan plans forgetting e
  | looking probe rest gone said split_ forgetting here =>
    subst here
    rw [listed_ids_bind] at taken
    rcases step_listing taken with rfl | ⟨e, rfl⟩
    · exact probe_forgotten_stage plan plans said full split_ forgetting
    · exact failed_ended plan plans forgetting e
  | clearing probe rest gone split_ forgetting cleared here =>
    subst here
    rcases step_forget taken with ⟨id, member, rfl⟩ | ⟨said, rfl⟩ | ⟨e, rfl⟩
    · have still : ¬ isListed (forgotten listed [id]) probe := fun there => cleared ((listed_forgotten _ _ _).mp there).1
      refine .clearing probe rest (gone ++ [id]) split_ (forgetting_more plan forgetting
        (split_ ▸ mem_cons_of_mem _ member) fun first head there => ?_) still rfl
      rw [split_] at head
      cases head
      exact still there
    · exact .checking probe rest gone said split_ forgetting cleared rfl
    · exact failed_ended plan plans forgetting e
  | checking probe rest gone said split_ forgetting cleared here =>
    subst here
    rw [listed_ids_bind] at taken
    rcases step_listing taken with rfl | ⟨e, rfl⟩
    · exact rest_forgotten_stage plan plans said full split_ forgetting cleared
    · exact failed_ended plan plans forgetting e
  | reclaiming gone forgetting clear here =>
    subst here
    rcases step_reclaim taken with rfl | ⟨e, rfl⟩
    · exact .ended gone forgetting rfl nofun
    · exact failed_ended plan plans forgetting e
  | ended gone forgetting silent denied =>
    cases prog with
    | done value => cases taken
    | fail e => cases taken
    | call request next => cases silent

variable (stage : Stage documents plan plans listed prog)

include stage in
theorem stage_forgetting : ∃ gone, Forgetting documents plan listed gone := by
  cases stage with
  | start untouched here => exact ⟨[], untouched ▸ forgetting_start documents plan⟩
  | probing probe rest gone split_ forgetting here => exact ⟨gone, forgetting⟩
  | looking probe rest gone said split_ forgetting here => exact ⟨gone, forgetting⟩
  | clearing probe rest gone split_ forgetting cleared here => exact ⟨gone, forgetting⟩
  | checking probe rest gone said split_ forgetting cleared here => exact ⟨gone, forgetting⟩
  | reclaiming gone forgetting clear here => exact ⟨gone, forgetting⟩
  | ended gone forgetting silent denied => exact ⟨gone, forgetting⟩

include stage in
theorem stage_reclaimed (asked : pending prog = some .prune) : ∀ id ∈ plan.forgetIds, ¬ isListed listed id := by
  cases stage with
  | reclaiming gone forgetting clear here => exact clear
  | ended gone forgetting silent denied =>
    rw [silent] at asked
    cases asked
  | start untouched here => cases here ▸ asked
  | probing probe rest gone split_ forgetting here => cases here ▸ asked
  | looking probe rest gone said split_ forgetting here => cases here ▸ asked
  | clearing probe rest gone split_ forgetting cleared here => cases here ▸ asked
  | checking probe rest gone said split_ forgetting cleared here => cases here ▸ asked

include stage in
theorem stage_denied
    (probe said : String) (snapshots runs : Nat) (end_ : prog = .done (.notPermitted probe said snapshots runs)) :
    listed = documents := by
  cases stage with
  | ended gone forgetting silent denied => exact denied probe said snapshots runs end_
  | start untouched here => exact untouched
  | probing probe rest gone split_ forgetting here => cases here.symm.trans end_
  | looking probe rest gone said split_ forgetting here => cases here.symm.trans end_
  | clearing probe rest gone split_ forgetting cleared here => cases here.symm.trans end_
  | checking probe rest gone said split_ forgetting cleared here => cases here.symm.trans end_
  | reclaiming gone forgetting clear here => cases here.symm.trans end_

theorem stage_sound (stage : Stage documents plan plans state.listed state.prog) : SoundPoint documents plan state where
  outside s present kept := by
    obtain ⟨gone, forgetting⟩ := stage_forgetting plan plans stage
    rw [forgetting.left]
    exact mem_filter.mpr ⟨present, decide_eq_true fun lost => kept (forgetting.within _ lost)⟩
  reclaimed := stage_reclaimed plan plans stage
  denied := stage_denied plan plans stage

theorem stage_safe (safe : CommitFirst documents plan)
    (stage : Stage documents plan plans state.listed state.prog) : SafePoint documents plan state where
  toSoundPoint := stage_sound plan plans stage
  whole c commit manifest tagged there s member same := by
    obtain ⟨gone, forgetting⟩ := stage_forgetting plan plans stage
    exact forgetting_whole _ plan safe forgetting commit manifest tagged there member same

theorem lost_unsafe (commit : c ∈ parseSnapshots documents)
    (manifest : c.isManifest = true) (tagged : c.runTag ≠ "") (member : s ∈ parseSnapshots documents)
    (same : s.runTag = c.runTag) (there : isListed state.listed c.id) (lost : ¬ isListed state.listed s.id) :
    ¬ SafePoint documents plan state :=
  fun safe => lost (safe.whole c commit manifest tagged there s member same)

variable {plan}

theorem probe_removed (planned : plan = plans (parseSnapshots documents)) (split_ : plan.forgetIds = probe :: rest) :
    (pruneSystem documents (listing >>= fun snapshots => forgetPlan (plans snapshots))).Reachable
      ⟨forgotten documents [probe], forget [probe] >>= fun said => listedIds >>= probeForgotten plan probe rest said⟩ := by
  have begun : forgetPlan plan = forget [probe] >>= fun said => listedIds >>= probeForgotten plan probe rest said := by
    rw [forgetPlan, split_]
  have planning : (pruneSystem documents (listing >>= fun snapshots => forgetPlan (plans snapshots))).Reachable
      ⟨documents, forget [probe] >>= fun said => listedIds >>= probeForgotten plan probe rest said⟩ :=
    .step _ _ (.list none) (.initial _ rfl) (by rw [← begun, planned]; rfl)
  exact .step _ _ (.remove probe) planning
    (remove_step documents (fun said => listedIds >>= probeForgotten plan probe rest said) mem_cons_self)

theorem unsafe_reachable (full : Listed documents) (planned : plan = plans (parseSnapshots documents))
    (c s : SnapshotMeta) (commit : c ∈ parseSnapshots documents) (manifest : c.isManifest = true) (tagged : c.runTag ≠ "")
    (member : s ∈ parseSnapshots documents) (same : s.runTag = c.runTag) (other : s.id ≠ c.id)
    (forgets : s.id ∈ plan.forgetIds) (later : plan.forgetIds.head? ≠ some c.id) :
    ∃ state, (pruneSystem documents (listing >>= fun snapshots => forgetPlan (plans snapshots))).Reachable state ∧
      ¬ SafePoint documents plan state := by
  have commitListed := parsed_listed _ commit
  cases split_ : plan.forgetIds with
  | nil =>
    rw [split_] at forgets
    cases forgets
  | cons probe rest =>
    have notFirst : c.id ≠ probe := fun first => later (by rw [split_, first]; rfl)
    have probed := probe_removed plans planned split_
    have still : isListed (forgotten documents [probe]) c.id :=
      (listed_forgotten _ _ _).mpr ⟨commitListed, fun first => notFirst (mem_singleton.mp first)⟩
    by_cases first : s.id = probe
    · refine ⟨_, probed, lost_unsafe plan commit manifest tagged member same still fun there => ?_⟩
      exact ((listed_forgotten _ _ _).mp there).2 (first ▸ mem_cons_self)
    · have inRest : s.id ∈ rest := by
        rw [split_] at forgets
        exact (mem_cons.mp forgets).resolve_left first
      have gone : probe ∉ (parseSnapshots (forgotten documents [probe])).map SnapshotMeta.id := by
        rw [mem_listed_ids _ full, listed_forgotten]
        exact fun facts => facts.2 mem_cons_self
      have next : probeForgotten plan probe rest "" ((parseSnapshots (forgotten documents [probe])).map SnapshotMeta.id) =
          forget rest >>= fun said => listedIds >>= restForgotten plan rest said := by
        rw [probeForgotten, if_neg gone, forgetRest, if_pos (ne_nil_of_mem inRest)]
      have answered := System.Reachable.step _ ⟨forgotten documents [probe],
        listedIds >>= probeForgotten plan probe rest ""⟩ (.answerForget (.ok "")) probed rfl
      have clearing := System.Reachable.step _ ⟨forgotten documents [probe],
        forget rest >>= fun said => listedIds >>= restForgotten plan rest said⟩ (.list none) answered (by
          rw [← next]
          rfl)
      have taken := remove_step (forgotten documents [probe]) (fun said => listedIds >>= restForgotten plan rest said) inRest
      have cut := System.Reachable.step _ _ (ResticAction.remove s.id) clearing taken
      refine ⟨_, cut, lost_unsafe plan commit manifest tagged member same ?_ fun there => ?_⟩
      · exact (listed_forgotten _ _ _).mpr ⟨still, fun lost => other (mem_singleton.mp lost).symm⟩
      · exact ((listed_forgotten _ _ _).mp there).2 mem_cons_self

end Points

section Exact

variable (snapshotInstant : String → Option Instant) (policy : RetentionPolicy) (thisClusterUid : String)
  (now : Instant) (runDeadline : Duration)

theorem run_prune_stage {documents : List Document} (full : Listed documents) {state : PruneState}
    (reachable : (pruneSystem documents (runPrune snapshotInstant policy thisClusterUid now runDeadline)).Reachable state) :
    Stage documents (planPrune snapshotInstant (parseSnapshots documents) policy thisClusterUid now runDeadline)
      (fun snapshots => planPrune snapshotInstant snapshots policy thisClusterUid now runDeadline) state.listed state.prog := by
  refine System.invariant _ (fun state => Stage documents _ _ state.listed state.prog) ?_ ?_ state reachable
  · intro start initially
    rw [show start = _ from initially]
    exact .start rfl rfl
  · intro before action after stage taken
    exact stage_step _
      (fun snapshots => planPrune snapshotInstant snapshots policy thisClusterUid now runDeadline) full rfl before after
      action stage taken

-- Every run that loses a snapshot to the plan loses its commit first of all.
theorem run_prune_safe_iff (documents : List Document) (full : Listed documents) :
    (∀ state, (pruneSystem documents (runPrune snapshotInstant policy thisClusterUid now runDeadline)).Reachable state →
        SafePoint documents (planPrune snapshotInstant (parseSnapshots documents) policy thisClusterUid now runDeadline) state) ↔
      CommitFirst documents (planPrune snapshotInstant (parseSnapshots documents) policy thisClusterUid now runDeadline) := by
  constructor
  · intro safe c commit manifest tagged s member same other forgets
    by_contra later
    obtain ⟨state, reachable, broken⟩ := unsafe_reachable
      (fun snapshots => planPrune snapshotInstant snapshots policy thisClusterUid now runDeadline) full rfl c s commit
      manifest tagged member same other forgets later
    exact broken (safe state reachable)
  · intro first state reachable
    exact stage_safe _ _ first (run_prune_stage snapshotInstant policy thisClusterUid now runDeadline full reachable)

end Exact

section Sample

theorem run_prune_safe_iff_sample : (∀ state, (pruneSystem (fridayRun ++ saturdayRun)
        (runPrune septemberClock ⟨1, 0, 0, utc⟩ thisCluster (septemberAt 27 2) defaultRunDeadline)).Reachable state →
        SafePoint (fridayRun ++ saturdayRun) (planPrune septemberClock (parseSnapshots (fridayRun ++ saturdayRun))
          ⟨1, 0, 0, utc⟩ thisCluster (septemberAt 27 2) defaultRunDeadline) state) ↔
      CommitFirst (fridayRun ++ saturdayRun) (planPrune septemberClock (parseSnapshots (fridayRun ++ saturdayRun))
        ⟨1, 0, 0, utc⟩ thisCluster (septemberAt 27 2) defaultRunDeadline) :=
  run_prune_safe_iff septemberClock ⟨1, 0, 0, utc⟩ thisCluster (septemberAt 27 2) defaultRunDeadline
    (fridayRun ++ saturdayRun) sample_whole.listed

-- The commit is still there, and a restore takes it for a run with no claims.
theorem prune_stopped_between : ∃ state, (pruneSystem (fridayRun ++ saturdayRun)
        (runPrune septemberClock ⟨1, 0, 0, utc⟩ thisCluster (septemberAt 27 2) defaultRunDeadline)).Reachable state ∧
      ¬ SafePoint (fridayRun ++ saturdayRun) (planPrune septemberClock (parseSnapshots (fridayRun ++ saturdayRun))
        ⟨1, 0, 0, utc⟩ thisCluster (septemberAt 27 2) defaultRunDeadline) state ∧
      resolveRunSnapshots septemberClock (fridayRun ++ saturdayRun) "a2" (some thisCluster) = .ok ⟨"a2", ["a1"], [], none⟩ ∧
      resolveRunSnapshots septemberClock state.listed "a2" (some thisCluster) = .ok ⟨"a2", [], [], none⟩ := by
  have plan : planPrune septemberClock (parseSnapshots (fridayRun ++ saturdayRun)) ⟨1, 0, 0, utc⟩ thisCluster
      (septemberAt 27 2) defaultRunDeadline = ⟨["a1", "a2"], 1, 1, 0⟩ := by decide +kernel
  refine ⟨_, probe_removed
    (fun snapshots => planPrune septemberClock snapshots ⟨1, 0, 0, utc⟩ thisCluster (septemberAt 27 2) defaultRunDeadline)
    plan.symm rfl, ?_, by decide +kernel, by decide +kernel⟩
  rw [plan]
  intro safe
  have claim := safe.whole
    (snapshotMeta (fridayRun ++ saturdayRun) (sampleDocument "a2" "2026-09-25T03:00:00Z" "2026-09-25T03:00:00Z" "/staging/commit"))
    (by decide +kernel) (by decide +kernel) (by decide +kernel)
    ⟨sampleDocument "a2" "2026-09-25T03:00:00Z" "2026-09-25T03:00:00Z" "/staging/commit", by decide +kernel, by decide +kernel⟩
    (snapshotMeta (fridayRun ++ saturdayRun) (sampleDocument "a1" "2026-09-25T03:00:00Z" "2026-09-25T03:00:00Z" "/staging/claim-0"))
    (by decide +kernel) (by decide +kernel)
  obtain ⟨s, member, named⟩ := claim
  have left : ∀ s ∈ forgotten (fridayRun ++ saturdayRun) ["a1"], s.metaId ≠ "a1" := by decide +kernel
  exact left s member named

end Sample

end AppRafter.Backup
