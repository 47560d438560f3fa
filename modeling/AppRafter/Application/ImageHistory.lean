import AppRafter.Lib.Window
import AppRafter.Application.ImageHold

set_option autoImplicit false

namespace AppRafter.Application

open Lib List Option

def imageDigest (image : Option StatusImage) : Option String := image.bind (·.resolved)

def rollbackTarget (image : Option StatusImage) : Option String := (image.bind (·.previous)).bind (·.resolved)

variable (prior : Option StatusImage)

theorem shift_previous_target (digest : String) :
    (shiftPrevious prior (some digest)).bind (·.resolved) = shift (imageDigest prior) (rollbackTarget prior) digest := by
  cases prior with
  | none => rfl
  | some prior =>
    cases known : prior.resolved with
    | none => simp [shiftPrevious, digestMoved, known, imageDigest, rollbackTarget, shift]
    | some before =>
      by_cases same : before = digest
      · simp [shiftPrevious, digestMoved, known, imageDigest, rollbackTarget, shift, same]
      · simp [shiftPrevious, digestMoved, known, imageDigest, shift, same]

theorem shift_previous_none : (shiftPrevious prior none).bind (·.resolved) = rollbackTarget prior := by
  cases prior with
  | none => rfl
  | some prior => cases known : prior.resolved <;> simp [shiftPrevious, digestMoved, known, rollbackTarget]

section Outside

variable (parseImageRef : String → Option ImageRef)

def unpinned (app : ApplicationObject) : Bool := (app.annotations.get annImagePin).isNone

variable {app : ApplicationObject} {effective : ApplicationBaseSpec} {trail : List Mark} {decision : ImageDecision}
  {history : List (Exchange appApi)} {running : Option Deployment} {deployment : Deployment} {world : AppWorld}
  {status : ApplicationStatus} {record : List (AppWorld × Exchange appApi)}

theorem unpinned_read (effective : ApplicationBaseSpec) (free : unpinned app = true) :
    readPin parseImageRef app.annotations effective = none := by
  rw [readPin, isNone_iff_eq_none.mp free]

theorem decided_pushes {rendered : List String} {digest : String} (free : unpinned app = true)
    (decided : ImageDecided parseImageRef app effective trail decision) (resolved : decision.resolved = some digest)
    (tracks : Tracks rendered (imageDigest (existingImage app)) (rollbackTarget (existingImage app))) :
    effective.image.isSome = true ∧
      Tracks (digest :: rendered) (imageDigest decision.status) (rollbackTarget decision.status) := by
  have pushed := tracks_push digest tracks
  cases decided with
  | pinned pin honoured => exact nomatch (unpinned_read parseImageRef effective free).symm.trans honoured
  | verbatim off => exact nomatch resolved
  | cached tag known prior named found same recorded =>
    refine ⟨by rw [named]; rfl, ?_⟩
    have standing : imageDigest (existingImage app) = some digest := by
      rw [found, imageDigest, bind_some, recorded]
      exact resolved
    rw [standing, shift, if_pos rfl, found] at pushed
    rw [found] at standing
    exact standing ▸ pushed
  | attempted tag trail attempt running now condition named looked =>
    refine ⟨by rw [named]; rfl, ?_⟩
    have current : (resolutionOutcome parseImageRef (existingImage app) running tag attempt now).rendered =
      some digest := resolved
    have target : rollbackTarget (some (resolutionOutcome parseImageRef (existingImage app) running tag attempt now).status) =
        shift (imageDigest (existingImage app)) (rollbackTarget (existingImage app)) digest := by
      rw [← shift_previous_target, ← current]
      rfl
    have recorded : imageDigest (some (resolutionOutcome parseImageRef (existingImage app) running tag attempt now).status) =
        some digest := current
    rw [recorded, target]
    exact pushed

-- One that renders the tag keeps the target, and the law where no digest was recorded.
theorem decided_keeps (decided : ImageDecided parseImageRef app effective trail decision) (written : decision.resolved = none) :
    imageDigest decision.status = none ∧ rollbackTarget decision.status = rollbackTarget (existingImage app) := by
  cases decided with
  | pinned pin honoured => exact nomatch written
  | verbatim off =>
    have status : (verbatimImage app effective.image).status =
      ((existingImage app).bind (·.previous)).map fun previous => { tag := effective.image, previous := some previous } := rfl
    rw [status, rollbackTarget, rollbackTarget]
    cases (existingImage app).bind (·.previous) with
    | none | some => exact ⟨rfl, rfl⟩
  | cached tag known prior named found same recorded => exact nomatch written
  | attempted tag trail attempt running now condition named looked =>
    have current : (resolutionOutcome parseImageRef (existingImage app) running tag attempt now).rendered = none := written
    refine ⟨current, ?_⟩
    rw [← shift_previous_none (existingImage app), ← current]
    rfl

def readBack (history : List (Exchange appApi)) : List (Option Deployment) :=
  history.filterMap fun exchange => match exchange with
    | ⟨.getDeployment, .ok running⟩ => some running
    | _ => none

-- Resolution is off or there is no image, or the lookup failed with no digest known.
def rendersAsWritten (app : ApplicationObject) (history : List (Exchange appApi)) : Bool :=
  match effectiveSpec app.spec app.spec.environment with
  | .error _ => false
  | .ok effective =>
    match effective.image with
    | none => true
    | some tag => !imageResolutionEnabled effective || (lookupFailed parseImageRef tag history &&
          (readBack history).all (fun running => (runningDigestFor parseImageRef running tag).isNone) &&
          (lastResolvedFor parseImageRef (existingImage app) tag).isNone)

theorem read_back_marked (member : running ∈ readBack history) : .read (.ok running) ∈ marks history := by
  obtain ⟨⟨asked, response⟩, present, found⟩ := mem_filterMap.mp member
  refine mem_filterMap.mpr ⟨⟨asked, response⟩, present, ?_⟩
  cases asked with
  | getDeployment =>
    cases response with
    | ok deployment => exact congrArg (fun read => some (Mark.read (.ok read))) (some.inj found)
    | error why => exact nomatch found
  | _ => exact nomatch found

theorem looked_marked {image : ImageRef} {reply : Reply String}
    (member : .looked image reply ∈ marks history) : (⟨.headManifest image, reply⟩ : Exchange appApi) ∈ history := by
  obtain ⟨⟨asked, response⟩, present, found⟩ := mem_filterMap.mp member
  cases asked with
  | headManifest other =>
    obtain ⟨same, answer⟩ := Mark.looked.inj (some.inj found)
    rw [← same, ← answer]
    exact present
  | _ => exact nomatch found

theorem looked_fails {tag why : String} (looked : Looked parseImageRef tag trail (.error why) running)
    (left : ∀ mark ∈ trail, mark ∈ marks history) : lookupFailed parseImageRef tag history = true := by
  rw [lookupFailed, Bool.or_eq_true]
  cases looked with
  | unreadable running unread => exact .inl (by rw [unread]; rfl)
  | failed image reply why running parsed moving broken =>
    refine .inr (any_eq_true.mpr ⟨_, looked_marked (left _ mem_cons_self), ?_⟩)
    exact decide_eq_true ⟨parsed, moving, by rw [broken]; rfl⟩

theorem looked_reads {tag why : String} {other : Option Deployment}
    (looked : Looked parseImageRef tag trail (.error why) running) (member : .read (.ok other) ∈ trail) :
    other = running := by
  cases looked with
  | unreadable | failed => simpa using member

-- The only passes that decide for the reference as written.
theorem decided_as_written (valid : effectiveSpec app.spec app.spec.environment = .ok effective)
    (decided : ImageDecided parseImageRef app effective trail decision) (written : decision.resolved = none)
    (marked : marks history = trail ++ [.applied deployment (.ok ())]) :
    rendersAsWritten parseImageRef app history = true := by
  simp only [rendersAsWritten, valid]
  cases decided with
  | pinned pin honoured => exact nomatch written
  | verbatim off =>
    cases named : effective.image with
    | none => rfl
    | some tag =>
      cases off with
      | inl none => exact nomatch named.symm.trans none
      | inr disabled =>
        simp only [disabled]
        rfl
  | cached tag known prior named found same recorded => exact nomatch written
  | attempted tag trail attempt running now condition named looked =>
    rw [named]
    cases attempt with
    | ok digest => exact nomatch written
    | error why =>
      have kept : (runningDigestFor parseImageRef running tag).or
        (lastResolvedFor parseImageRef (existingImage app) tag) = none := written
      obtain ⟨idle, unknown⟩ := or_eq_none_iff.mp kept
      have failed : lookupFailed parseImageRef tag history = true := by
        refine looked_fails _ looked ?_
        intro left member
        rw [marked]
        exact mem_append_left _ member
      have reads : (readBack history).all (fun other => (runningDigestFor parseImageRef other tag).isNone) = true := by
        rw [List.all_eq_true]
        intro other member
        have read := read_back_marked member
        rw [marked, mem_append] at read
        have same : other = running := by
          cases read with
          | inl earlier => exact looked_reads _ looked earlier
          | inr last => simp at last
        rw [same, idle]
        rfl
      simp only [failed, reads, unknown]
      simp

def recorded (world : AppWorld) : Bool :=
  world.deployment.all fun live => live.imageRef.isNone || imageDigest (existingImage world.app) == some live.image

def Remembered (world : AppWorld) : Prop :=
  ∃ older, Tracks older (imageDigest (existingImage world.app)) (rollbackTarget (existingImage world.app)) ∧
    (world.rendered = older ∨
      ∃ live, world.deployment = some live ∧ live.imageRef.isSome = true ∧ world.rendered = live.image :: older)

theorem remembered_tracks (remembered : Remembered world) (settled : recorded world = true) :
    Tracks world.rendered (imageDigest (existingImage world.app)) (rollbackTarget (existingImage world.app)) := by
  obtain ⟨older, tracks, all | ⟨live, runs, stamped, pushed⟩⟩ := remembered
  · rw [all]
    exact tracks
  · rw [recorded, runs] at settled
    have current : imageDigest (existingImage world.app) = some live.image := by
      cases (Bool.or_eq_true _ _).mp settled with
      | inl unstamped =>
        rw [isNone_iff_eq_none.mp unstamped] at stamped
        exact nomatch stamped
      | inr same => exact eq_of_beq same
    have again := tracks_push live.image tracks
    rw [current, shift, if_pos rfl] at again
    rw [pushed, current]
    exact again

theorem remembered_frame {after : AppWorld} (image : existingImage after.app = existingImage world.app)
    (deployment : after.deployment = world.deployment) (rendered : after.rendered = world.rendered)
    (remembered : Remembered world) : Remembered after := by
  simp only [Remembered]
  rw [image, deployment, rendered]
  exact remembered

theorem remembered_change {after : AppWorld} (change : AppChange) (remembered : Remembered world)
    (changed : changeApp world change = some after) : Remembered after := by
  obtain ⟨_, _, status, deployment, rendered⟩ := change_app_frame change changed
  have image : existingImage after.app = existingImage world.app := by rw [existingImage, existingImage, status]
  exact remembered_frame image deployment rendered remembered

structure Began (start : AppWorld) : Prop where
  free : unpinned start.app = true
  tracks : Tracks start.rendered (imageDigest (existingImage start.app)) (rollbackTarget (existingImage start.app))

def appliesDeployment (exchange : Exchange appApi) : Bool :=
  match exchange.request with
  | .applyDeployment _ => true
  | _ => false

def writesAsWritten (pass : AppPass) : Bool :=
  match pass.asks with
  | some (.applyStatus _) =>
    pass.history.any appliesDeployment && rendersAsWritten parseImageRef pass.start.app pass.history
  | _ => false

theorem applied_marked {reply : Reply Unit}
    (member : .applied deployment reply ∈ marks history) : history.any appliesDeployment = true := by
  obtain ⟨⟨asked, response⟩, present, found⟩ := mem_filterMap.mp member
  refine any_eq_true.mpr ⟨_, present, ?_⟩
  cases asked with
  | applyDeployment other => rfl
  | _ => exact nomatch found

theorem stamps_unwritten (stamped : Stamps parseImageRef app trail status) :
    .wrote ∉ trail ∧ ∃ deployment reply, .applied deployment reply ∈ trail := by
  obtain ⟨_, before, deployment, decision, trailed, decided, _⟩ := stamped
  rw [trailed]
  refine ⟨?_, deployment, .ok (), mem_append_right _ (mem_singleton_self _)⟩
  intro member
  cases mem_append.mp member with
  | inl earlier =>
    obtain ⟨_, _, same⟩ | ⟨_, same⟩ := decided_marks decided earlier
    · exact nomatch same
    · exact nomatch same
  | inr last => exact nomatch mem_singleton.mp last

theorem remembered_applied {start : AppWorld} (deployment : Deployment) (began : Began start) (linked : Linked start record world)
    (unapplied : ∀ earlier reply, .applied earlier reply ∉ trailOf record) (unwritten : .wrote ∉ trailOf record) :
    Remembered (world.withDeployment deployment) := by
  have status : existingImage world.app = existingImage start.app := by
    rw [existingImage, existingImage, linked.status unwritten]
  refine ⟨start.rendered, status ▸ began.tracks, ?_⟩
  simp only [AppWorld.withDeployment, (linked.unapplied unapplied).2]
  by_cases stamped : deployment.imageRef.isSome = true
  · exact .inr ⟨deployment, rfl, stamped, if_pos stamped⟩
  · exact .inl (if_neg stamped)

theorem remembered_stamped {start : AppWorld} (began : Began start) (linked : Linked start record world)
    (stamped : Stamps parseImageRef start.app (trailOf record) status)
    (keeps : rendersAsWritten parseImageRef start.app (record.map Prod.snd) = true →
      imageDigest (existingImage start.app) = none) : Remembered (world.withStatus status) := by
  obtain ⟨_, before, deployment, decision, trailed, decided, shown, imaged, valid⟩ := stamped
  have member : Mark.applied deployment (.ok ()) ∈ trailOf record := by
    rw [trailed]
    exact mem_append_right _ (mem_singleton_self _)
  obtain ⟨_, rendered⟩ := linked.applied deployment member
  refine ⟨world.rendered, ?_, .inl rfl⟩
  change Tracks world.rendered (imageDigest status.image) (rollbackTarget status.image)
  rw [imaged, rendered, AppWorld.withDeployment]
  cases resolved : decision.resolved with
  | some digest =>
    obtain ⟨named, pushed⟩ := decided_pushes parseImageRef began.free decided resolved began.tracks
    have mark : deployment.imageRef.isSome = true := by
      rw [shown.2, resolved]
      exact named
    have image : deployment.image = digest := by
      rw [shown.1, resolved]
      rfl
    simp only [if_pos mark, image]
    exact pushed
  | none =>
    have unmarked : ¬deployment.imageRef.isSome = true := by
      rw [shown.2, resolved]
      exact Bool.false_ne_true
    obtain ⟨digest, target⟩ := decided_keeps _ decided resolved
    have empty := keeps (decided_as_written _ valid decided resolved trailed)
    simp only [if_neg unmarked, digest, target]
    exact empty ▸ began.tracks

variable (sha256Hex : String → String) (ctx : Context)

theorem remembered_serve {pass : AppPass} (fate : AppFate) {request : AppRequest}
    (asked : pass.asks = some request) (began : Began pass.start) (linked : Linked pass.start pass.record world)
    (remembered : Remembered world)
    (admitted : appAllowed parseImageRef sha256Hex pass.start.app pass.history request)
    (keeps : writesAsWritten parseImageRef pass = true → imageDigest (existingImage world.app) = none) :
    Remembered (serveApp world fate request).2 := by
  rcases serve_app_frame world fate request with
    ⟨app, deployment, rendered⟩ | ⟨deployment, same, served⟩ | ⟨status, same, served⟩
  · exact remembered_frame (congrArg existingImage app) deployment rendered remembered
  · rw [same] at admitted
    obtain ⟨⟨_, _, unwritten⟩, decision, decided, _⟩ := admitted
    rw [served]
    exact remembered_applied deployment began linked (decided_unapplied decided) unwritten
  · rw [same] at admitted asked
    rw [served]
    cases admitted with
    | inl carried =>
      obtain ⟨unmarked, _, image⟩ := carried
      have still := linked.unapplied (by
        change ∀ deployment reply, .applied deployment reply ∉ marks pass.history
        simp [unmarked])
      refine ⟨pass.start.rendered, ?_, .inl still.2⟩
      change Tracks _ (imageDigest status.image) (rollbackTarget status.image)
      rw [image]
      exact began.tracks
    | inr stamped =>
      refine remembered_stamped _ began linked stamped ?_
      intro written
      obtain ⟨unwritten, deployment, reply, member⟩ := stamps_unwritten _ stamped
      have status : existingImage world.app = existingImage pass.start.app := by
        rw [existingImage, existingImage, linked.status unwritten]
      rw [← status]
      apply keeps
      rw [writesAsWritten, asked]
      simp only [applied_marked member, Bool.true_and]
      exact written

-- No pin, no pass over an unrecorded digest, none that writes the tag over a recorded one.
def Follows (state : AppState) : Prop :=
  (appMachine parseImageRef sha256Hex ctx).Run (fun world => unpinned world.app = true ∧ recorded world = true)
    (fun pass world => writesAsWritten parseImageRef pass = true → imageDigest (existingImage world.app) = none) state

theorem remembered_run {state : AppState} (ran : Follows parseImageRef sha256Hex ctx state) : Remembered state.world := by
  have holds := (appMachine parseImageRef sha256Hex ctx).holds_run _ _ Remembered
    (fun start record world => Linked start record world ∧ Began start)
    (fun start => appAllowed parseImageRef sha256Hex start.app) ?_ ?_ ?_ ?_ ?_ state ran
  · exact holds.1
  · intro world fresh
    refine ⟨[], ?_, .inl fresh.2.2⟩
    rw [existingImage, fresh.1]
    exact tracks_nil
  · intro world change after remembered changed
    exact remembered_change change remembered changed
  · intro start record world change after _ linked changed
    exact ⟨linked_change change linked.1 changed, linked.2⟩
  · intro world remembered started
    refine ⟨⟨linked_start world, started.1, remembered_tracks remembered started.2⟩, ?_⟩
    exact reconcile_runs parseImageRef sha256Hex world.app ctx
  · intro pass world fate request rest remembered linked waiting admitted keeps
    refine ⟨?_, linked_serve parseImageRef sha256Hex pass.start pass.record world fate request linked.1 admitted, linked.2⟩
    exact remembered_serve parseImageRef sha256Hex fate (Machine.call_asks waiting) linked.2 linked.1 remembered admitted keeps

theorem rollback_target_law (state : AppState) (ran : Follows parseImageRef sha256Hex ctx state) (digest : String)
    (resolved : imageDigest (existingImage state.world.app) = some digest) :
    rollbackTarget (existingImage state.world.app) =
      (state.world.rendered.dropWhile fun other => other ≠ digest).find? (fun other => other ≠ digest) ∧
    (recorded state.world = true →
      rollbackTarget (existingImage state.world.app) = state.world.rendered.find? fun other => other ≠ digest) := by
  have remembered := remembered_run parseImageRef sha256Hex ctx ran
  constructor
  · obtain ⟨older, tracks, grown⟩ := remembered
    rw [resolved] at tracks
    obtain all | ⟨live, _, _, pushed⟩ := grown
    · exact tracks_behind older _ digest digest tracks (.inl all)
    · exact tracks_behind older _ digest live.image tracks (.inr pushed)
  · intro settled
    exact (remembered_tracks remembered settled).before digest resolved

end Outside

structure HistoryView where
  idle : Bool
  free : Bool
  settled : Bool
  digest : Option String
  target : Option String
  rendered : List String
deriving DecidableEq

def historyView (state : AppState) : HistoryView :=
  { idle := state.pass.isNone
    free := unpinned state.world.app
    settled := recorded state.world
    digest := imageDigest (existingImage state.world.app)
    target := rollbackTarget (existingImage state.world.app)
    rendered := state.world.rendered }

def digestA : String := digestReference (shopTag "1.4") (shaOf 'a')

def digestB : String := digestReference (shopTag "1.4") (shaOf 'b')

theorem rollback_target_second :
    ∃ state, Follows shopParse (fun _ => "") ⟨false, false⟩ state ∧
      imageDigest (existingImage state.world.app) = some digestB ∧
      rollbackTarget (existingImage state.world.app) = some digestA := by
  have finished : (imageMachine.checkedRun (fun world => unpinned world.app = true ∧ recorded world = true)
      (fun pass world => writesAsWritten shopParse pass = true → imageDigest (existingImage world.app) = none)
      ⟨shopWorld (imageSpec "1.4" none), none⟩ (renderPass 1000 'a' ++ renderPass 2000 'b')).map historyView =
        some ⟨true, true, true, some digestB, some digestA, [digestB, digestA]⟩ := by decide +kernel
  obtain ⟨state, ran, view⟩ := map_eq_some_iff.mp finished
  have follows := imageMachine.run_checked _ _ _ state _ (.initial _ ⟨⟨rfl, rfl, rfl⟩, rfl⟩) ran
  have resolved : imageDigest (existingImage state.world.app) = some digestB := congrArg HistoryView.digest view
  have rendered : state.world.rendered = [digestB, digestA] := congrArg HistoryView.rendered view
  refine ⟨state, follows, resolved, ?_⟩
  rw [(rollback_target_law shopParse _ _ state follows digestB resolved).2 (congrArg HistoryView.settled view), rendered]
  decide

def lostPass : List AppAction :=
  .begin :: List.replicate 12 (.reply (answering 2000 (.error "unreachable"))) ++ [.abandon]

-- The pass in between records no digest, and the one before it is lost as a target.
theorem rollback_target_lost :
    ∃ state, imageMachine.system.Reachable state ∧ state.pass = none ∧ unpinned state.world.app = true ∧
      recorded state.world = true ∧ imageDigest (existingImage state.world.app) = some digestB ∧
      (state.world.rendered.find? fun other => other ≠ digestB) = some digestA ∧
      rollbackTarget (existingImage state.world.app) = none := by
  have finished : (imageMachine.system.run ⟨shopWorld (imageSpec "1.4" none), none⟩
      (renderPass 1000 'a' ++ [editTo (imageSpec "1.5" none)] ++ lostPass ++ renderPass 3000 'b')).map historyView =
        some ⟨true, true, true, some digestB, none, [digestB, digestA]⟩ := by decide +kernel
  obtain ⟨state, reachable, view⟩ := System.run_shows _ finished ⟨⟨rfl, rfl, rfl⟩, rfl⟩
  have rendered : state.world.rendered = [digestB, digestA] := congrArg HistoryView.rendered view
  refine ⟨state, reachable, isNone_iff_eq_none.mp (congrArg HistoryView.idle view),
    congrArg HistoryView.free view, congrArg HistoryView.settled view, congrArg HistoryView.digest view, ?_,
    congrArg HistoryView.target view⟩
  rw [rendered]
  decide

end AppRafter.Application
