import AppRafter.Application.InFlight

set_option autoImplicit false

namespace AppRafter.Application

open Lib Migration List Option

-- A host has no path in it, and a tag replaced by a digest reads back.
structure ReferenceGrammar (parseImageRef : String → Option ImageRef) : Prop where
  host : ∀ text image, parseImageRef text = some image → '/' ∉ image.host.toList
  digest : ∀ text image digest, parseImageRef text = some image → image.isDigest = false →
    isValidSha256Digest digest = true →
      parseImageRef (digestReference image digest) = some ⟨image.host, image.repository, digest, true⟩

section Outside

variable (parseImageRef : String → Option ImageRef)

-- A digest of the reference's repository, or the reference is a digest itself.
def Bound (tag image : String) : Prop :=
  ∃ parsed, parseImageRef tag = some parsed ∧
    (parsed.isDigest = true ∨ digestIntoRepositoryOf parseImageRef image tag = some image)

variable {tag digest : String} {prior : Option StatusImage} {running : Option Deployment}
  {effective : ApplicationBaseSpec} {trail : List Mark} {app : ApplicationObject} {decision : ImageDecision}
  {deployment live : Deployment} {history : List (Exchange appApi)} {request : AppRequest}

theorem digest_into_parsed {candidate : String} (kept : digestIntoRepositoryOf parseImageRef candidate tag = some digest) :
    ∃ own wanted, parseImageRef candidate = some own ∧ own.isDigest = true ∧ parseImageRef tag = some wanted := by
  cases own : parseImageRef candidate with
  | none => simp [digestIntoRepositoryOf, own] at kept
  | some image =>
    cases wanted : parseImageRef tag with
    | none => simp [digestIntoRepositoryOf, own, wanted] at kept
    | some reference =>
      by_cases fixed : image.isDigest = true
      · exact ⟨image, reference, rfl, fixed, rfl⟩
      · simp [digestIntoRepositoryOf, own, wanted, fixed] at kept

theorem kept_bound {candidate : String}
    (kept : digestIntoRepositoryOf parseImageRef candidate tag = some digest) : Bound parseImageRef tag digest := by
  obtain ⟨_, wanted, _, _, parsed⟩ := digest_into_parsed _ kept
  have same := digest_into_self kept
  exact ⟨wanted, parsed, .inr (same ▸ same ▸ kept)⟩

theorem last_resolved_bound (kept : lastResolvedFor parseImageRef prior tag = some digest) : Bound parseImageRef tag digest := by
  unfold lastResolvedFor at kept
  cases prior with
  | none => exact nomatch kept
  | some prior =>
    simp only at kept
    split at kept
    · exact nomatch kept
    · obtain ⟨candidate, _, into⟩ := bind_eq_some_iff.mp kept
      exact kept_bound _ into

theorem running_digest_bound
    (kept : runningDigestFor parseImageRef running tag = some digest) : Bound parseImageRef tag digest := by
  unfold runningDigestFor at kept
  cases running with
  | none => exact nomatch kept
  | some running =>
    simp only at kept
    split at kept
    · exact kept_bound _ kept
    · exact nomatch kept

variable (grammar : ReferenceGrammar parseImageRef)

include grammar in
theorem pin_bound {raw pin : String}
    (valid : validatePin parseImageRef raw (some tag) = .ok pin) : Bound parseImageRef tag pin := by
  cases own : parseImageRef raw with
  | none => simp [validatePin, own] at valid
  | some parsed =>
    by_cases digest : parsed.isDigest = true
    · by_cases canonical : isValidSha256Digest parsed.reference = true
      · cases wanted : parseImageRef tag with
        | none => simp [validatePin, own, digest, canonical, wanted] at valid
        | some spec =>
          by_cases joined : parsed.host ++ "/" ++ parsed.repository = spec.host ++ "/" ++ spec.repository
          · have chars : parsed.host.toList ++ '/' :: parsed.repository.toList =
                spec.host.toList ++ '/' :: spec.repository.toList := by
              simpa using congrArg String.toList joined
            obtain ⟨hosts, repositories⟩ := Text.first_cut_unique '/' _ _ _ _ (grammar.host raw parsed own)
              (grammar.host tag spec wanted) chars
            have same : raw = pin := by simpa [validatePin, own, digest, canonical, wanted, joined] using valid
            refine ⟨spec, wanted, .inr ?_⟩
            rw [← same, digestIntoRepositoryOf, own, wanted]
            exact if_pos ⟨digest, canonical, String.toList_inj.mp hosts, String.toList_inj.mp repositories⟩
          · simp [validatePin, own, digest, canonical, wanted, joined] at valid
      · simp [validatePin, own, digest, canonical] at valid
    · simp [validatePin, own, digest] at valid

include grammar in
theorem read_pin_bound {annotations : Dict String} (tag pin : String) (named : effective.image = some tag)
    (honoured : readPin parseImageRef annotations effective = some (.ok pin)) : Bound parseImageRef tag pin := by
  unfold readPin at honoured
  cases placed : annotations.get annImagePin with
  | none => simp [placed] at honoured
  | some value =>
    simp only [placed] at honoured
    split at honoured
    · exact nomatch honoured
    · rw [named] at honoured
      exact pin_bound _ grammar (some.inj honoured)

def RecordBound (image : Option StatusImage) : Prop :=
  ∀ prior tag digest, image = some prior → prior.tag = some tag → prior.resolved = some digest → Bound parseImageRef tag digest

include grammar in
theorem looked_bound (looked : Looked parseImageRef tag trail (.ok digest) running) : Bound parseImageRef tag digest := by
  cases looked with
  | digest image parsed fixed => exact ⟨image, parsed, .inl fixed⟩
  | answered image answer parsed moving valid =>
    refine ⟨image, parsed, .inr ?_⟩
    rw [digestIntoRepositoryOf, parsed, grammar.digest tag image answer parsed moving valid]
    exact if_pos ⟨rfl, valid, rfl, rfl⟩

include grammar in
theorem outcome_bound (prior : Option StatusImage)
    (running : Option Deployment) (tag digest : String) (trail : List Mark) (attempt : Except String String) (now : Nat)
    (looked : Looked parseImageRef tag trail attempt running)
    (rendered : (resolutionOutcome parseImageRef prior running tag attempt now).rendered = some digest) :
    Bound parseImageRef tag digest := by
  cases attempt with
  | ok answer =>
    rw [← some.inj rendered]
    exact looked_bound _ grammar looked
  | error why =>
    have kept : (runningDigestFor parseImageRef running tag).or (lastResolvedFor parseImageRef prior tag) = some digest :=
      rendered
    cases live : runningDigestFor parseImageRef running tag with
    | some found =>
      rw [live] at kept
      rw [← some.inj kept]
      exact running_digest_bound _ live
    | none =>
      rw [live] at kept
      exact last_resolved_bound _ kept

include grammar in
theorem decided_bound (recorded : RecordBound parseImageRef (existingImage app))
    (decided : ImageDecided parseImageRef app effective trail decision) :
    (∀ tag digest, effective.image = some tag → decision.resolved = some digest → Bound parseImageRef tag digest) ∧
      RecordBound parseImageRef decision.status := by
  cases decided with
  | pinned pin honoured =>
    have bound := fun tag named => read_pin_bound _ grammar tag pin named honoured
    constructor
    · intro tag digest named resolved
      exact some.inj resolved ▸ bound tag named
    · intro prior tag digest found tagged resolved
      rw [← some.inj found] at tagged resolved
      exact some.inj resolved ▸ bound tag tagged
  | verbatim off =>
    constructor
    · exact fun _ _ _ none => nomatch none
    · intro prior tag digest found tagged resolved
      obtain ⟨_, _, same⟩ := map_eq_some_iff.mp found
      rw [← same] at resolved
      exact nomatch resolved
  | cached tag digest prior named found same known =>
    constructor
    · intro wanted kept wantedNamed resolved
      rw [← some.inj resolved, ← some.inj (named.symm.trans wantedNamed)]
      exact recorded prior tag digest found same known
    · exact found ▸ recorded
  | attempted tag trail attempt running now condition named looked =>
    have bound := fun digest rendered =>
      outcome_bound parseImageRef grammar (existingImage app) running tag digest trail attempt now looked rendered
    constructor
    · intro wanted digest wantedNamed rendered
      exact some.inj (named.symm.trans wantedNamed) ▸ bound digest rendered
    · intro prior wanted digest found tagged resolved
      rw [← some.inj found] at tagged resolved
      exact some.inj tagged ▸ bound digest resolved

-- Without the annotation the image is the reference as written.
def LiveBound (deployment : Deployment) : Prop :=
  (∀ reference, deployment.imageRef = some reference → deployment.effective.image = some reference ∧
    Bound parseImageRef reference deployment.image) ∧
  (∀ reference, deployment.effective.image = some reference → deployment.imageRef = none → deployment.image = reference)

theorem shown_bound (shown : Shows deployment decision)
    (bound : ∀ tag digest, deployment.effective.image = some tag → decision.resolved = some digest →
      Bound parseImageRef tag digest) : LiveBound parseImageRef deployment := by
  obtain ⟨image, imageRef⟩ := shown
  cases resolved : decision.resolved with
  | none =>
    rw [resolved] at image imageRef
    constructor
    · intro reference stamped
      exact nomatch imageRef.symm.trans stamped
    · intro reference named _
      rw [image, named]
      rfl
  | some digest =>
    rw [resolved] at image imageRef
    constructor
    · intro reference stamped
      have named : deployment.effective.image = some reference := imageRef.symm.trans stamped
      exact ⟨named, image ▸ bound reference digest named resolved⟩
    · intro reference named unstamped
      exact nomatch named.symm.trans (imageRef.symm.trans unstamped)

structure ImagesBound (world : AppWorld) : Prop where
  recorded : RecordBound parseImageRef (existingImage world.app)
  live : ∀ deployment, world.deployment = some deployment → LiveBound parseImageRef deployment

variable (sha256Hex : String → String)

theorem images_bound_serve (grammar : ReferenceGrammar parseImageRef) {start world : AppWorld} (fate : AppFate)
    (began : ImagesBound parseImageRef start) (bound : ImagesBound parseImageRef world)
    (admitted : appAllowed parseImageRef sha256Hex start.app history request) :
    ImagesBound parseImageRef (serveApp world fate request).2 := by
  rcases serve_app_frame world fate request with
    ⟨app, deployment, _⟩ | ⟨deployment, asked, served⟩ | ⟨status, asked, served⟩
  · exact ⟨app ▸ bound.recorded, deployment ▸ bound.live⟩
  · rw [asked] at admitted
    obtain ⟨_, decision, decided, shown⟩ := admitted
    rw [served]
    refine ⟨bound.recorded, ?_⟩
    intro live found
    rw [← some.inj found]
    exact shown_bound parseImageRef shown (decided_bound _ grammar began.recorded decided).1
  · rw [asked] at admitted
    rw [served]
    refine ⟨?_, bound.live⟩
    change RecordBound parseImageRef status.image
    cases admitted with
    | inl carried =>
      rw [carried.2.2]
      exact began.recorded
    | inr stamped =>
      obtain ⟨_, before, deployment, decision, _, decided, _, imaged, _⟩ := stamped
      rw [imaged]
      exact (decided_bound _ grammar began.recorded decided).2

theorem images_bound_change {world after : AppWorld} (change : AppChange) (bound : ImagesBound parseImageRef world)
    (changed : changeApp world change = some after) : ImagesBound parseImageRef after := by
  obtain ⟨_, _, status, deployment, _⟩ := change_app_frame change changed
  constructor
  · rw [existingImage, status]
    exact bound.recorded
  · rw [deployment]
    exact bound.live

variable (ctx : Context)

theorem images_bound (grammar : ReferenceGrammar parseImageRef) {state : AppState}
    (reachable : (appMachine parseImageRef sha256Hex ctx).system.Reachable state) {pass : AppPass}
    (running : state.pass = some pass) (asked : pass.asks = some request) :
    ImagesBound parseImageRef state.world ∧ ImagesBound parseImageRef pass.start ∧ Linked pass.start pass.record state.world ∧
      appAllowed parseImageRef sha256Hex pass.start.app pass.history request := by
  have holds := (appMachine parseImageRef sha256Hex ctx).holds_run (fun _ => True) (fun _ _ => True) (ImagesBound parseImageRef)
    (fun start record world => Linked start record world ∧ ImagesBound parseImageRef start)
    (fun start => appAllowed parseImageRef sha256Hex start.app) ?_ ?_ ?_ ?_ ?_ state
    ((appMachine parseImageRef sha256Hex ctx).run_of_reachable state reachable)
  · obtain ⟨bound, flight⟩ := holds
    obtain ⟨linked, runs⟩ := flight pass running
    obtain ⟨rest, waiting⟩ := Machine.asks_call asked
    rw [waiting] at runs
    exact ⟨bound, linked.2, linked.1, runs.1⟩
  · intro world fresh
    constructor
    · intro prior tag digest found
      rw [existingImage, fresh.1] at found
      exact nomatch found
    · intro deployment found
      rw [fresh.2.1] at found
      exact nomatch found
  · intro world change after bound changed
    exact images_bound_change parseImageRef change bound changed
  · intro start record world change after _ linked changed
    exact ⟨linked_change change linked.1 changed, linked.2⟩
  · intro world bound _
    exact ⟨⟨linked_start world, bound⟩, reconcile_runs parseImageRef sha256Hex world.app ctx⟩
  · intro pass world fate request rest bound linked _ admitted _
    exact ⟨images_bound_serve _ _ grammar fate linked.2 bound admitted,
      linked_serve parseImageRef sha256Hex pass.start pass.record world fate request linked.1 admitted, linked.2⟩

-- The reference does not read, or the registry did not answer with a usable digest.
def refused (tag : String) : Exchange appApi → Bool
  | ⟨.headManifest image, reply⟩ =>
    decide (parseImageRef tag = some image ∧ image.isDigest = false ∧ (checkedDigest image reply).isOk = false)
  | _ => false

def lookupFailed (tag : String) (history : List (Exchange appApi)) : Bool :=
  (parseImageRef tag).isNone || history.any (refused parseImageRef tag)

variable (failed : lookupFailed parseImageRef tag history = true)

include failed in
theorem lookup_failed_cases :
    parseImageRef tag = none ∨ ∃ image reply why, parseImageRef tag = some image ∧ image.isDigest = false ∧
      (⟨.headManifest image, reply⟩ : Exchange appApi) ∈ history ∧ checkedDigest image reply = .error why := by
  cases (Bool.or_eq_true _ _).mp failed with
  | inl unread => exact .inl (isNone_iff_eq_none.mp unread)
  | inr asked =>
    obtain ⟨⟨asked, response⟩, member, lost⟩ := any_eq_true.mp asked
    cases asked with
    | headManifest image =>
      obtain ⟨parsed, moving, broken⟩ := of_decide_eq_true lost
      cases checked : checkedDigest image response with
      | ok digest =>
        rw [checked] at broken
        exact nomatch broken
      | error why => exact .inr ⟨image, response, why, parsed, moving, member, checked⟩
    | _ => exact nomatch lost

include failed in
theorem lookup_failed_moving {parsed : ImageRef} (read : parseImageRef tag = some parsed) : parsed.isDigest = false := by
  cases lookup_failed_cases _ failed with
  | inl unread => exact nomatch unread.symm.trans read
  | inr asked =>
    obtain ⟨image, _, _, same, moving, _⟩ := asked
    rw [← some.inj (same.symm.trans read)]
    exact moving

-- Where no lookup was made, the reference does not read and nothing was kept.
include grammar in
theorem failed_decision (recorded : RecordBound parseImageRef (existingImage app)) (named : effective.image = some tag)
    (decided : ImageDecided parseImageRef app effective (marks history) decision)
    (failed : lookupFailed parseImageRef tag history = true) :
    (parseImageRef tag = none ∧ decision.resolved = none) ∨
    ∃ running, .read (.ok running) ∈ marks history ∧ decision.resolved =
      (runningDigestFor parseImageRef running tag).or (lastResolvedFor parseImageRef (existingImage app) tag) := by
  have unmarked : marks history = [] → parseImageRef tag = none := by
    intro none
    cases lookup_failed_cases _ failed with
    | inl unread => exact unread
    | inr asked =>
      obtain ⟨image, reply, _, _, _, member, _⟩ := asked
      have left : Mark.looked image reply ∈ marks history := mem_filterMap.mpr ⟨_, member, rfl⟩
      rw [none] at left
      cases left
  generalize trailed : marks history = trail at decided unmarked ⊢
  cases decided with
  | pinned pin honoured =>
    obtain ⟨parsed, read, _⟩ := read_pin_bound _ grammar tag pin named honoured
    exact nomatch (unmarked rfl).symm.trans read
  | verbatim off => exact .inl ⟨unmarked rfl, rfl⟩
  | cached known digest prior knownNamed found same resolved =>
    obtain ⟨parsed, read, _⟩ := recorded prior known digest found same resolved
    rw [some.inj (knownNamed.symm.trans named)] at read
    exact nomatch (unmarked rfl).symm.trans read
  | attempted wanted trail attempt running now condition wantedNamed looked =>
    rw [some.inj (wantedNamed.symm.trans named)] at looked ⊢
    cases looked with
    | unreadable running unread => exact .inr ⟨running, mem_singleton_self _, rfl⟩
    | digest image parsed fixed =>
      rw [lookup_failed_moving _ failed parsed] at fixed
      exact nomatch fixed
    | answered image _ parsed moving valid =>
      cases lookup_failed_cases _ failed with
      | inl unread => exact nomatch unread.symm.trans parsed
      | inr asked =>
        obtain ⟨other, reply, why, _, _, member, broken⟩ := asked
        have left : Mark.looked other reply ∈ marks history := mem_filterMap.mpr ⟨_, member, rfl⟩
        rw [trailed, mem_singleton] at left
        obtain ⟨_, same⟩ := Mark.looked.inj left
        rw [same, checkedDigest, if_pos valid] at broken
        cases broken
    | failed image reply why running parsed moving broken =>
      exact .inr ⟨running, mem_cons_of_mem _ (mem_singleton_self _), rfl⟩

include failed in
theorem kept_not_tag (kept : lastResolvedFor parseImageRef prior tag = some digest) : digest ≠ tag := by
  intro same
  cases prior with
  | none => exact nomatch kept
  | some prior =>
    simp only [lastResolvedFor] at kept
    split at kept
    · exact nomatch kept
    · obtain ⟨candidate, _, into⟩ := bind_eq_some_iff.mp kept
      obtain ⟨own, _, parsed, fixed, _⟩ := digest_into_parsed _ into
      rw [← digest_into_self into, same] at parsed
      rw [lookup_failed_moving _ failed parsed] at fixed
      exact nomatch fixed

theorem stamped_kept (bound : LiveBound parseImageRef live) (rendered : live.effective.image = some tag)
    (failed : lookupFailed parseImageRef tag history = true) (stamped : live.imageRef.isSome = true) :
    live.imageRef = some tag ∧ parseImageRef tag ≠ none ∧ runningDigestFor parseImageRef (some live) tag = some live.image := by
  obtain ⟨reference, marked⟩ := isSome_iff_exists.mp stamped
  obtain ⟨named, parsed, read, kept⟩ := bound.1 reference marked
  have same : reference = tag := some.inj (named.symm.trans rendered)
  rw [same] at marked read kept
  refine ⟨marked, by rw [read]; exact some_ne_none _, ?_⟩
  cases kept with
  | inl fixed =>
    rw [lookup_failed_moving _ failed read] at fixed
    exact nomatch fixed
  | inr into =>
    simp only [runningDigestFor, if_pos marked]
    exact into

-- They differ just where the tag was rendered and the status still records a digest.
include grammar in
theorem held_image_iff (recorded : RecordBound parseImageRef (existingImage app)) (bound : LiveBound parseImageRef live)
    (named : deployment.effective.image = some tag) (rendered : live.effective.image = some tag)
    (decided : ImageDecided parseImageRef app deployment.effective (marks history) decision)
    (shown : Shows deployment decision) (reads : ∀ running, .read (.ok running) ∈ marks history → running = some live)
    (failed : lookupFailed parseImageRef tag history = true) :
    deployment.image = live.image ↔
      live.imageRef.isSome = true ∨ lastResolvedFor parseImageRef (existingImage app) tag = none := by
  have image : deployment.image = decision.resolved.getD tag := by rw [shown.1, named]; rfl
  have settled := failed_decision _ grammar recorded named decided failed
  by_cases stamped : live.imageRef.isSome = true
  · obtain ⟨_, read, kept⟩ := stamped_kept _ bound rendered failed stamped
    refine iff_of_true ?_ (.inl stamped)
    cases settled with
    | inl unread => exact absurd unread.1 read
    | inr found =>
      obtain ⟨running, member, resolved⟩ := found
      rw [image, resolved, reads running member, kept]
      rfl
  · have unstamped : live.imageRef = none := by simpa using stamped
    have written : live.image = tag := bound.2 tag rendered unstamped
    have idle : runningDigestFor parseImageRef (some live) tag = none := by simp [runningDigestFor, unstamped]
    have kept : decision.resolved = lastResolvedFor parseImageRef (existingImage app) tag := by
      cases settled with
      | inr found =>
        obtain ⟨running, member, resolved⟩ := found
        rw [resolved, reads running member, idle]
        rfl
      | inl unread =>
        rw [unread.2]
        cases recordedFor : lastResolvedFor parseImageRef (existingImage app) tag with
        | none => rfl
        | some digest =>
          obtain ⟨_, read, _⟩ := last_resolved_bound _ recordedFor
          exact nomatch unread.1.symm.trans read
    rw [image, kept, written]
    cases recordedFor : lastResolvedFor parseImageRef (existingImage app) tag with
    | none => exact iff_of_true rfl (.inr rfl)
    | some digest =>
      refine iff_of_false (kept_not_tag _ failed recordedFor) ?_
      intro either
      cases either with
      | inl marked => exact stamped marked
      | inr none => exact nomatch none

theorem registry_failure_iff (grammar : ReferenceGrammar parseImageRef) (state : AppState)
    (reachable : (appMachine parseImageRef sha256Hex ctx).system.Reachable state) (pass : AppPass)
    (running : state.pass = some pass) (deployment live : Deployment)
    (asked : pass.asks = some (.applyDeployment deployment)) (runs : state.world.deployment = some live)
    (effective : ApplicationBaseSpec) (tag : String)
    (valid : effectiveSpec pass.start.app.spec pass.start.app.spec.environment = .ok effective)
    (named : effective.image = some tag) (rendered : live.effective.image = some tag)
    (failed : lookupFailed parseImageRef tag pass.history = true) :
    deployment.image = live.image ↔
      live.imageRef.isSome = true ∨ lastResolvedFor parseImageRef (existingImage state.world.app) tag = none := by
  obtain ⟨bound, began, linked, admitted⟩ := images_bound parseImageRef sha256Hex ctx grammar reachable running asked
  obtain ⟨⟨rendering, _, unwritten⟩, decision, decided, shown⟩ := admitted
  have same : deployment.effective = effective := Except.ok.inj (rendering.symm.trans valid)
  have status : existingImage state.world.app = existingImage pass.start.app := by
    rw [existingImage, existingImage, linked.status unwritten]
  have standing := linked.unapplied (decided_unapplied decided)
  have reads : ∀ found, .read (.ok found) ∈ marks pass.history → found = some live := by
    intro found member
    rw [linked.read found member, ← standing.1, runs]
  rw [status]
  exact held_image_iff parseImageRef grammar began.recorded
    (bound.live live runs) (same ▸ named) rendered decided shown reads failed

end Outside

def shopImage (tag : String) : String := "ghcr.io/acme/shop:" ++ tag

def shopTag (tag : String) : ImageRef := ⟨"ghcr.io", "acme/shop", tag, false⟩

def shaOf (c : Char) : String := String.ofList ("sha256:".toList ++ List.replicate 64 c)

def shopParse (text : String) : Option ImageRef :=
  let rest := String.ofList (text.toList.drop 18)
  if Text.startsWith text "ghcr.io/acme/shop:" = true then some (shopTag rest)
  else if Text.startsWith text "ghcr.io/acme/shop@" = true ∧ isValidSha256Digest rest = true then
    some ⟨"ghcr.io", "acme/shop", rest, true⟩
  else none

theorem shop_parse_cases {text : String} {image : ImageRef} (parsed : shopParse text = some image) :
    ∃ rest, image = shopTag rest ∨ image = ⟨"ghcr.io", "acme/shop", rest, true⟩ := by
  unfold shopParse at parsed
  extract_lets rest at parsed
  refine ⟨rest, ?_⟩
  split at parsed
  · exact .inl (some.inj parsed).symm
  · split at parsed
    · exact .inr (some.inj parsed).symm
    · exact nomatch parsed

theorem shop_grammar : ReferenceGrammar shopParse where
  host text image parsed := by
    have plain : '/' ∉ "ghcr.io".toList := by decide
    obtain ⟨rest, tagged | pinned⟩ := shop_parse_cases parsed
    · exact tagged ▸ plain
    · exact pinned ▸ plain
  digest text image digest parsed moving valid := by
    obtain ⟨rest, tagged | pinned⟩ := shop_parse_cases parsed
    · have chars : (digestReference image digest).toList = "ghcr.io/acme/shop@".toList ++ digest.toList := by
        simp [digestReference, shopTag, tagged]
      have cut : String.ofList ((digestReference image digest).toList.drop 18) = digest := by
        rw [chars, drop_left' (by decide), String.ofList_toList]
      have untagged : ¬Text.startsWith (digestReference image digest) "ghcr.io/acme/shop:" = true := by
        rw [Text.startsWith, chars, isPrefixOf_iff_prefix]
        intro begins
        obtain ⟨tail, same⟩ := begins
        have heads := (append_inj same (by decide)).1
        exact absurd heads (by decide)
      have begins : Text.startsWith (digestReference image digest) "ghcr.io/acme/shop@" = true := by
        rw [Text.startsWith, chars, isPrefixOf_iff_prefix]
        exact prefix_append _ _
      simp only [shopParse, cut]
      rw [if_neg untagged, if_pos ⟨begins, valid⟩, tagged]
      rfl
    · rw [pinned] at moving
      exact nomatch moving

def imageBase (tag : String) (resolve : Option String) : ApplicationBaseSpec :=
  { image := some (shopImage tag), imagePolicy := resolve.map fun policy => { resolve := some policy } }

def imageSpec (tag : String) (resolve : Option String) : ApplicationSpec := { base := some (imageBase tag resolve) }

abbrev imageMachine := appMachine shopParse (fun _ => "") ⟨false, false⟩

def editTo (spec : ApplicationSpec) : AppAction := .change (.edit spec Dict.empty (some 2))

def renderPass (time : Nat) (c : Char) : List AppAction :=
  .begin :: List.replicate 11 (.reply (answering time (.ok (shaOf c)))) ++ [.abandon]

def failingPass : List AppAction := .begin :: List.replicate 7 (.reply (answering 2000 (.error "unreachable")))

def cutPass : List AppAction :=
  [editTo (imageSpec "1.4" (some "off")), .begin] ++ List.replicate 4 (.reply (answering 1500 (.error "unreachable"))) ++
    [.abandon, editTo (imageSpec "1.4" none)]

structure HoldView where
  asked : Option AppRequest
  live : Option Deployment
  spec : ApplicationSpec
  failed : Bool
deriving DecidableEq

def holdView (state : AppState) : Option HoldView :=
  state.pass.map fun pass =>
    { asked := pass.asks
      live := state.world.deployment
      spec := pass.start.app.spec
      failed := lookupFailed shopParse (shopImage "1.4") pass.history }

def digestDeployment (c : Char) : Deployment :=
  { effective := imageBase "1.4" none
    claims := []
    image := digestReference (shopTag "1.4") (shaOf c)
    imageRef := some (shopImage "1.4") }

def writtenDeployment (resolve : Option String) : Deployment :=
  { effective := imageBase "1.4" resolve, claims := [], image := shopImage "1.4" }

def holdGoal (live : Deployment) : HoldView :=
  { asked := some (.applyDeployment (digestDeployment 'a'))
    live := some live
    spec := imageSpec "1.4" none
    failed := true }

theorem hold_reached (actions : List AppAction) (live : Deployment)
    (ran : (imageMachine.system.run ⟨shopWorld (imageSpec "1.4" none), none⟩ actions).bind holdView = some (holdGoal live)) :
    ∃ state pass, imageMachine.system.Reachable state ∧ state.pass = some pass ∧
      pass.asks = some (.applyDeployment (digestDeployment 'a')) ∧ state.world.deployment = some live ∧
      effectiveSpec pass.start.app.spec pass.start.app.spec.environment = .ok (imageBase "1.4" none) ∧
      lookupFailed shopParse (shopImage "1.4") pass.history = true := by
  obtain ⟨state, finished, viewed⟩ := bind_eq_some_iff.mp ran
  obtain ⟨pass, running, view⟩ := map_eq_some_iff.mp viewed
  have reachable := imageMachine.system.reachable_run ⟨shopWorld (imageSpec "1.4" none), none⟩
    (.initial _ ⟨⟨rfl, rfl, rfl⟩, rfl⟩) actions state finished
  have spec : pass.start.app.spec = imageSpec "1.4" none := congrArg HoldView.spec view
  refine ⟨state, pass, reachable, running, congrArg HoldView.asked view, congrArg HoldView.live view, ?_,
    congrArg HoldView.failed view⟩
  rw [spec]
  decide

theorem registry_failure_holds :
    ∃ state pass deployment live, imageMachine.system.Reachable state ∧ state.pass = some pass ∧
      pass.asks = some (.applyDeployment deployment) ∧ state.world.deployment = some live ∧
      live.effective.image = some (shopImage "1.4") ∧ lookupFailed shopParse (shopImage "1.4") pass.history = true ∧
      live.imageRef.isSome = true ∧ deployment.image = live.image := by
  obtain ⟨state, pass, reachable, running, asked, live, valid, failed⟩ :=
    hold_reached (renderPass 1000 'a' ++ failingPass) (digestDeployment 'a') (by decide +kernel)
  refine ⟨state, pass, _, _, reachable, running, asked, live, rfl, failed, rfl, ?_⟩
  exact (registry_failure_iff shopParse _ _ shop_grammar state reachable pass running _ _ asked live (imageBase "1.4" none)
    (shopImage "1.4") valid rfl rfl failed).mpr (.inl rfl)

-- The Deployment runs the tag, and the failed lookup rolls it back to the digest recorded.
theorem registry_failure_rolls :
    ∃ state pass deployment live, imageMachine.system.Reachable state ∧ state.pass = some pass ∧
      pass.asks = some (.applyDeployment deployment) ∧ state.world.deployment = some live ∧
      effectiveSpec pass.start.app.spec pass.start.app.spec.environment = .ok (imageBase "1.4" none) ∧
      live.effective.image = (imageBase "1.4" none).image ∧ lookupFailed shopParse (shopImage "1.4") pass.history = true ∧
      deployment.image ≠ live.image := by
  obtain ⟨state, pass, reachable, running, asked, live, valid, failed⟩ :=
    hold_reached (renderPass 1000 'a' ++ cutPass ++ failingPass) (writtenDeployment (some "off")) (by decide +kernel)
  exact ⟨state, pass, _, _, reachable, running, asked, live, valid, rfl, failed, by decide⟩

end AppRafter.Application
